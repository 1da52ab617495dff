/-
Module: AttachService.Proofs.Files.Folder
Purpose: The folder to work in as a table of names, and what each operation does to it.
Trusted boundary: none
Main exports: Path.Simple, Workdir.holds, Workdir.mem_names_iff, Workdir.Alters,
  Workdir.read_eq_ok_iff, Workdir.remove_eq_ok_iff, Workdir.create_of_simple,
  Workdir.rename_of_simple, Workdir.write_of_vacant, Workdir.exists_rename
-/
import Mathlib.Data.List.Basic
import AttachService.Files.Access

namespace AttachService

/-!
Most paths in use are plain names in the folder to work in.  For them the tree is a table from
names to entries: no lookup goes further than one step, unless it follows a symbolic link.
-/

/-- A name that can be the whole of a path and means an entry by it. -/
structure Path.Simple (name : Name) : Prop where
  nonempty : name ≠ []
  noNul : 0 ∉ name
  noSlash : Path.slash ∉ name
  short : name.length ≤ Path.nameBytes
  notHere : name ≠ Path.here
  notAbove : name ≠ Path.above

instance (name : Name) : Decidable (Path.Simple name) :=
  decidable_of_iff (name ≠ [] ∧ 0 ∉ name ∧ Path.slash ∉ name ∧ name.length ≤ Path.nameBytes
      ∧ name ≠ Path.here ∧ name ≠ Path.above)
    ⟨fun ⟨nonempty, noNul, noSlash, short, notHere, notAbove⟩ =>
        ⟨nonempty, noNul, noSlash, short, notHere, notAbove⟩,
      fun simple => ⟨simple.nonempty, simple.noNul, simple.noSlash, simple.short, simple.notHere,
        simple.notAbove⟩⟩

namespace Path

/-- What has no slash in it is not split. -/
theorem foldr_splitStep {name : Name} (noSlash : slash ∉ name) :
    name.foldr splitStep [[]] = [name] := by
  induction name with
  | nil => rfl
  | cons b rest ih =>
      have other : b ≠ slash := fun same => noSlash (same ▸ List.mem_cons_self)
      rw [List.foldr_cons, ih fun later => noSlash (List.mem_cons_of_mem b later), splitStep,
        if_neg other]

namespace Simple

variable {name : Name} (simple : Simple name)

include simple

/-- A simple name is a path of one component. -/
theorem components : Path.components name = [name] := by
  rw [Path.components, foldr_splitStep simple.noSlash]
  simpa using simple.nonempty

theorem isAbsolute : Path.isAbsolute name = false := by
  simp only [Path.isAbsolute, decide_eq_false_iff_not]
  exact fun first => simple.noSlash (List.mem_of_mem_head? first)

theorem wantsFolder : Path.wantsFolder name = false := by
  simp only [Path.wantsFolder, decide_eq_false_iff_not]
  exact fun last => simple.noSlash (List.mem_of_getLast? last)

theorem fault? : Path.fault? name = none := by
  have short : ¬ pathBytes ≤ name.length :=
    Nat.not_le.2 (Nat.lt_of_le_of_lt simple.short (by decide))
  rw [Path.fault?, if_neg simple.noNul, if_neg simple.nonempty, if_neg short]

end Simple

end Path

namespace Workdir

/-! ### Places -/

theorem lookup_filter {α β : Type} [BEq α] [LawfulBEq α] [DecidableEq α] (l : List (α × β))
    (a b : α) : (l.filter fun e => e.1 ≠ a).lookup b = if b = a then none else l.lookup b := by
  induction l with
  | nil => simp
  | cons e rest ih =>
      obtain ⟨c, value⟩ := e
      by_cases kept : c = a
      · subst kept
        rw [List.filter_cons_of_neg (by simp), ih, List.lookup_cons]
        by_cases same : b = c
        · rw [if_pos same, if_pos same]
        · rw [if_neg same, if_neg same, beq_false_of_ne same]
      · rw [List.filter_cons_of_pos (by simpa using kept), List.lookup_cons, List.lookup_cons, ih]
        by_cases same : b = c
        · subst same
          simp [kept]
        · simp [beq_false_of_ne same]

variable {w after : Workdir} {place other : Place}

theorem entryAt_erase (outside : ¬ place.isPrefixOf w.home) (other : Place) :
    Workdir.entry? (w.erase place) other = if other = place then none else w.entry? other := by
  unfold entry? erase
  by_cases above : other.isPrefixOf w.home
  · have apart : other ≠ place := fun same => outside (same ▸ above)
    simp only [if_pos above, if_neg apart]
  · simp only [if_neg above]
    exact lookup_filter w.entries place other

/-- Only the home folder itself, and those above it, are not looked up among the entries. -/
theorem entryAt_put (outside : ¬ place.isPrefixOf w.home) (entry : Entry) (other : Place) :
    Workdir.entry? (w.put place entry) other
      = if other = place then some entry else w.entry? other := by
  have erased := entryAt_erase outside other
  unfold entry? erase at erased
  unfold entry? put erase
  by_cases above : other.isPrefixOf w.home
  · have apart : other ≠ place := fun same => outside (same ▸ above)
    simp only [if_pos above, if_neg apart]
  · simp only [if_neg above] at erased ⊢
    rw [List.lookup_append, erased, List.lookup_cons]
    by_cases same : other = place
    · simp [same]
    · simp [same, beq_false_of_ne same]

/-! ### Names -/

/-- The entry with a name in the folder to work in. -/
def holds (w : Workdir) (name : Name) : Option Entry := w.entry? (w.home ++ [name])

/-- What is in the home folder is not above it. -/
theorem not_isPrefixOf_home (w : Workdir) (name : Name) :
    ¬ (w.home ++ [name]).isPrefixOf w.home := by
  intro above
  have longer := (List.isPrefixOf_iff_prefix.1 above).length_le
  rw [List.length_append, List.length_singleton] at longer
  omega

theorem isFolder_home (w : Workdir) : w.isFolder w.home = true := by
  have self : w.home.isPrefixOf w.home := List.isPrefixOf_iff_prefix.2 List.prefix_rfl
  rw [isFolder, entry?, if_pos self]
  rfl

/-- The names in the folder are those that it has entries for. -/
theorem mem_names_iff {name : Name} : name ∈ w.names ↔ (w.holds name).isSome := by
  rw [holds, entry?, if_neg (w.not_isPrefixOf_home name), List.lookup_isSome_iff, names,
    List.mem_filterMap]
  constructor
  · rintro ⟨⟨place, entry⟩, listed, named⟩
    simp only at named
    split at named
    · next inside =>
        refine ⟨(place, entry), listed, beq_iff_eq.2 ?_⟩
        rw [← inside, List.dropLast_append_getLast? name named]
    · cases named
  · rintro ⟨⟨place, entry⟩, listed, same⟩
    obtain rfl := beq_iff_eq.1 same
    exact ⟨(w.home ++ [name], entry), listed, by simp⟩

theorem mem_entries_of_holds {name : Name} {entry : Entry} (found : w.holds name = some entry) :
    (w.home ++ [name], entry) ∈ w.entries := by
  rw [holds, entry?, if_neg (w.not_isPrefixOf_home name), List.lookup_eq_some_iff] at found
  obtain ⟨front, back, listed, -⟩ := found
  rw [listed]
  exact List.mem_append_right front List.mem_cons_self

/-- The folder after one of its names has been given an entry, or has lost the one it had.
Nothing else is different. -/
structure Alters (w : Workdir) (name : Name) (entry : Option Entry) (after : Workdir) :
    Prop where
  home : after.home = w.home
  self : after.holds name = entry
  others : ∀ other, other ≠ name → after.holds other = w.holds other

theorem alters_put (w : Workdir) (name : Name) (entry : Entry) :
    w.Alters name (some entry) (w.put (w.home ++ [name]) entry) where
  home := rfl
  self := by
    rw [holds]
    exact (entryAt_put (w.not_isPrefixOf_home name) entry _).trans (if_pos rfl)
  others other apart := by
    rw [holds, holds]
    refine (entryAt_put (w.not_isPrefixOf_home name) entry _).trans (if_neg ?_)
    exact fun same => apart (List.singleton_inj.1 (List.append_cancel_left same))

theorem alters_erase (w : Workdir) (name : Name) :
    w.Alters name none (w.erase (w.home ++ [name])) where
  home := rfl
  self := by
    rw [holds]
    exact (entryAt_erase (w.not_isPrefixOf_home name) _).trans (if_pos rfl)
  others other apart := by
    rw [holds, holds]
    refine (entryAt_erase (w.not_isPrefixOf_home name) _).trans (if_neg ?_)
    exact fun same => apart (List.singleton_inj.1 (List.append_cancel_left same))

/-- Who gives a name a second entry might have given it the second at once. -/
theorem Alters.again {name : Name} {between : Workdir} {one two : Option Entry}
    (first : w.Alters name one between) (second : between.Alters name two after) :
    w.Alters name two after := by
  constructor
  · rw [second.home, first.home]
  · exact second.self
  · intro other apart
    rw [second.others other apart, first.others other apart]

/-! ### Operations on plain names -/

section Simple

variable {name : Name} (simple : Path.Simple name)

include simple

theorem find_home : w.find w.home name = .ok (w.holds name) := by
  rw [find, if_neg (Nat.not_lt.2 simple.short), holds]

/-- A name is where it is, unless it is a link that has to be followed. -/
theorem walkVia_home {manner : Manner} (detour : Place → List Name → Bool → Except FaultKind Ending)
    (plain : manner = .itself ∨ ∀ entry, w.holds name = some entry →
      ∀ target, entry.kind ≠ .link target) :
    w.walkVia manner detour w.home [name] false = .ok (.name w.home name false) := by
  have inside : ¬ ¬ (w.isFolder w.home = true) := not_not_intro w.isFolder_home
  have unslashed : ¬ (([] : List Name) = [] ∧ manner = .make ∧ false = true) := by simp
  rw [walkVia, if_neg inside, if_neg simple.notHere, if_neg simple.notAbove]
  rcases plain with rfl | plain
  · rw [if_pos ⟨rfl, rfl⟩]
  · by_cases itself : manner = .itself
    · rw [if_pos ⟨rfl, itself⟩]
    · rw [if_neg fun last => itself last.2, if_neg unslashed, find_home simple]
      split
      · next found => cases found
      · next target _ _ found =>
          injection found with found
          exact absurd rfl (plain _ found target)
      · rw [if_pos rfl]

/-- A simple name means its entry in the home folder, if no link is followed. -/
theorem locate_home {manner : Manner}
    (plain : manner = .itself ∨ ∀ entry, w.holds name = some entry →
      ∀ target, entry.kind ≠ .link target) :
    w.locate manner name = .ok (.name w.home name false) := by
  rw [locate, simple.fault?]
  simp only [simple.components, simple.wantsFolder, start, simple.isAbsolute]
  exact walkVia_home simple _ plain

/-- Without a link in the way, a name reaches what is there under it, or nothing. -/
theorem reach_of_not_link (plain : ∀ entry, w.holds name = some entry →
    ∀ target, entry.kind ≠ .link target) :
    w.reach name = match w.holds name with
      | none => .error .notFound
      | some entry => .ok entry := by
  rw [reach, locate_home simple (.inr plain)]
  simp only [holds]
  split <;> simp [*]

/-- What can be read under a name is the contents of the file there. -/
theorem read_eq_ok_iff (plain : ∀ entry, w.holds name = some entry →
    ∀ target, entry.kind ≠ .link target) {bytes : List UInt8} :
    w.read name = .ok bytes ↔
      ∃ removeFault, w.holds name = some ⟨.file bytes, none, removeFault⟩ := by
  rw [read, reach_of_not_link simple plain]
  cases found : w.holds name with
  | none => simp
  | some entry =>
      obtain ⟨kind, readFault, removeFault⟩ := entry
      cases kind <;> cases readFault <;> simp

/-- An entry of the home folder is removed unless it is a folder, or does not let itself be. -/
theorem remove_of_simple :
    w.remove name = match w.holds name with
      | none => .error (.plain .notFound)
      | some entry =>
          if entry.kind = .folder then .error (.plain .isADirectory)
          else
            match entry.removeFault with
            | some fault => .error fault
            | none => .ok (w.erase (w.home ++ [name])) := by
  rw [remove, locate_home simple (.inl rfl)]
  simp only [find_home simple]
  cases w.holds name <;> rfl

/-- What can be removed is there and no folder, and goes away. -/
theorem remove_eq_ok_iff :
    w.remove name = .ok after ↔
      (∃ entry, w.holds name = some entry ∧ entry.kind ≠ .folder ∧ entry.removeFault = none)
        ∧ after = w.erase (w.home ++ [name]) := by
  rw [remove_of_simple simple]
  cases found : w.holds name with
  | none => simp
  | some entry =>
      obtain ⟨kind, readFault, removeFault⟩ := entry
      by_cases folder : kind = .folder
      · simp [folder]
      · cases removeFault with
        | some fault => simp [folder]
        | none => simp [folder, eq_comm]

/-- Removing an entry changes nothing about the others. -/
theorem alters_of_remove (removed : w.remove name = .ok after) : w.Alters name none after := by
  obtain ⟨-, rfl⟩ := (remove_eq_ok_iff simple).1 removed
  exact w.alters_erase name

/-- A file can be made where there is none or nothing, and it is empty. -/
theorem create_of_simple (plain : ∀ entry, w.holds name = some entry →
    ∀ target, entry.kind ≠ .link target) {place : Place}
    (created : w.create name = .ok (place, after)) :
    place = w.home ++ [name]
      ∧ ∃ entry : Entry, w.Alters name (some { entry with kind := .file [] }) after := by
  rw [create, locate_home simple (.inr plain)] at created
  change (match w.holds name with
    | none => _
    | some entry => _) = _ at created
  cases found : w.holds name with
  | none =>
      rw [found] at created
      cases created
      exact ⟨rfl, { kind := .file [] }, w.alters_put name _⟩
  | some entry =>
      obtain ⟨kind, readFault, removeFault⟩ := entry
      rw [found] at created
      cases kind with
      | file contents =>
          cases created
          exact ⟨rfl, ⟨.file contents, readFault, removeFault⟩, w.alters_put name _⟩
      | folder => cases created
      | link target => cases created
      | socket listener => cases created

end Simple

/-- Bytes are added to the end of a file. -/
theorem append_of_file {name : Name} {entry : Entry} {contents : List UInt8}
    (found : w.holds name = some entry) (file : entry.kind = .file contents)
    (bytes : List UInt8) :
    w.Alters name (some { entry with kind := .file (contents ++ bytes) })
      (w.append (w.home ++ [name]) bytes) := by
  rw [holds] at found
  rw [append, found]
  simp only [file]
  exact w.alters_put name _

/-- An entry moves from one name to another.  Where a folder is, nothing else can go. -/
theorem rename_of_simple {old new : Name} (simpleOld : Path.Simple old)
    (simpleNew : Path.Simple new) :
    w.rename old new = match w.holds old with
      | none => .error (.plain .notFound)
      | some entry => w.move (w.home ++ [old]) (w.home ++ [new]) entry := by
  have noNul : ¬ (0 ∈ old ∨ 0 ∈ new) := not_or.2 ⟨simpleOld.noNul, simpleNew.noNul⟩
  rw [rename, if_neg noNul, locate_home simpleOld (.inl rfl), locate_home simpleNew (.inl rfl)]
  simp only [find_home simpleOld, find_home simpleNew]
  cases w.holds old <;> rfl

/-- Renaming takes an entry from one name, then puts it at another one. -/
theorem move_eq_ok {old new : Name} {entry : Entry} (moved :
    w.move (w.home ++ [old]) (w.home ++ [new]) entry = .ok after) :
    ∃ between, w.Alters old none between ∧ between.Alters new (some entry) after := by
  unfold move at moved
  split at moved
  · cases moved
  · split at moved
    · cases moved
    · cases moved
      exact ⟨w.erase (w.home ++ [old]), w.alters_erase old, alters_put _ new entry⟩

/-- Where nothing is, a file can be written. -/
theorem write_of_vacant {name : Name} (simple : Path.Simple name) (vacant : w.holds name = none)
    (contents : List UInt8) :
    ∃ made, w.create name = .ok (w.home ++ [name], made)
      ∧ w.Alters name (some { kind := .file contents })
        (made.append (w.home ++ [name]) contents) := by
  have plain : ∀ entry, w.holds name = some entry → ∀ target, entry.kind ≠ .link target := by
    intro entry found
    rw [vacant] at found
    cases found
  have empty := w.alters_put name { kind := .file [] }
  have full := append_of_file empty.self rfl contents
  rw [empty.home, List.nil_append] at full
  exists w.put (w.home ++ [name]) { kind := .file [] }
  constructor
  · rw [create, locate_home simple (.inr plain)]
    change (match w.holds name with
      | none => _
      | some entry => _) = _
    rw [vacant]
  · exact empty.again full

/-- What is not a folder can take the place of anything but a folder. -/
theorem exists_rename {old new : Name} {entry : Entry} (simpleOld : Path.Simple old)
    (simpleNew : Path.Simple new) (found : w.holds old = some entry) (file : entry.kind ≠ .folder)
    (room : ∀ there, w.holds new = some there → there.kind ≠ .folder) :
    ∃ between after, w.rename old new = .ok after ∧ w.Alters old none between
      ∧ between.Alters new (some entry) after := by
  have free : w.isFolder (w.home ++ [new]) = false := by
    rw [isFolder, ← holds]
    cases there : w.holds new with
    | none => rfl
    | some other => simpa using room other there
  have moved : w.rename old new
      = .ok ((w.erase (w.home ++ [old])).put (w.home ++ [new]) entry) := by
    rw [rename_of_simple simpleOld simpleNew, found]
    simp only [move, if_neg file, free]
    rfl
  exists w.erase (w.home ++ [old]), (w.erase (w.home ++ [old])).put (w.home ++ [new]) entry
  exact ⟨moved, w.alters_erase old, alters_put _ new entry⟩

end Workdir

end AttachService
