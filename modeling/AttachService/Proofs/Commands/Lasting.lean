/-
Module: AttachService.Proofs.Commands.Lasting
Purpose: A table of commands is what was registered last under each name, whatever was run on it.
Trusted boundary: none
Main exports: Session.Latest, Session.Replies, Session.execute_eq, Session.Knows,
  Session.knows_after, Session.Alike, Session.trace_of_alike, Session.Lasting, Session.lasting
-/
import AttachService.Commands.Session
import Mathlib.Data.List.Induction

namespace AttachService

/-!
Two things stay behind when a command was run: what its handler wrote to the buffer, and what was
reported of it.  Neither is looked at again.  So what comes back of an act depends on the
registrations that went before, and only on those of the name that the act is about.
-/

variable {name other : String} {handler latest : Handler} {args : List String}

/-! ### Registrations -/

namespace CommandTable

/-- A registration is about its own name only. -/
theorem handler?_register (table : CommandTable) (other : String) (handler : Handler)
    (name : String) :
    (table.register other handler).handler? name
      = if name = other then some handler else table.handler? name := by
  unfold handler? register
  rw [List.lookup_cons]
  by_cases same : name = other
  · simp [same]
  · rw [if_neg same, beq_false_of_ne same]

/-- The commands that are there from the beginning are the standard ones, with the properties that
this process has. -/
theorem builtin_eq_standard (info : ProcessInfo) :
    builtin info = standard (Builtin.properties info.pid (some info)) :=
  rfl

end CommandTable

namespace Session

variable {s t : Session} {registered : List (String × Handler)}

/-- The handler that was registered last under a name. -/
def Latest (registered : List (String × Handler)) (name : String) (handler : Handler) : Prop :=
  ∃ before after, registered = before ++ (name, handler) :: after ∧ ∀ r ∈ after, r.1 ≠ name

theorem Latest.mem (latest : Latest registered name handler) : (name, handler) ∈ registered := by
  obtain ⟨before, after, rfl, -⟩ := latest
  exact List.mem_append_right before (List.mem_cons_self ..)

/-- Where nothing is registered, nothing is the latest. -/
theorem not_latest_nil : ¬ Latest [] name handler := by
  intro latest
  cases latest.mem

/-- Another registration hides those of its own name and no others. -/
theorem latest_concat :
    Latest (registered ++ [(other, handler)]) name latest
      ↔ if name = other then handler = latest else Latest registered name latest := by
  constructor
  · rintro ⟨before, after, whole, unhidden⟩
    cases after using List.reverseRecOn with
    | nil =>
        obtain ⟨rfl, last⟩ := List.append_inj' whole rfl
        cases last
        rw [if_pos rfl]
    | append_singleton after r =>
        rw [← List.cons_append, ← List.append_assoc] at whole
        obtain ⟨rfl, last⟩ := List.append_inj' whole rfl
        cases last
        have apart : other ≠ name :=
          unhidden (other, handler) (List.mem_append_right after (List.mem_cons_self ..))
        rw [if_neg (Ne.symm apart)]
        exact ⟨before, after, rfl, fun r inside => unhidden r (List.mem_append_left _ inside)⟩
  · split
    · next same =>
        rintro rfl
        exact ⟨registered, [], by rw [same], by simp⟩
    · next apart =>
        rintro ⟨before, after, rfl, unhidden⟩
        refine ⟨before, after ++ [(other, handler)], by simp, ?_⟩
        intro r inside
        obtain inside | rfl := List.mem_append.1 inside |>.imp_right List.mem_singleton.1
        · exact unhidden r inside
        · exact Ne.symm apart

/-! ### Running a command -/

/-- The reply to a command, given what was registered. -/
inductive Replies (registered : List (String × Handler)) (name : String) (args : List String) :
    Reply → Prop
  | returned {handler : Handler} {code : Int32} (latest : Latest registered name handler)
      (returns : (handler args).returned = some code) :
      Replies registered name args ⟨code, (handler args).output⟩
  /-- Nothing is left of what the handler wrote before. -/
  | panicked {handler : Handler} (latest : Latest registered name handler)
      (panics : (handler args).returned = none) :
      Replies registered name args ⟨-2, "Operation " ++ name ++ " failed"⟩
  | unknown (never : ∀ r ∈ registered, r.1 ≠ name) :
      Replies registered name args ⟨-1, "Operation " ++ name ++ " not recognized!"⟩

/-- The buffer is empty at the beginning of a command, and after a panic again.  So the reply is
that of the table alone. -/
theorem execute_eq (s : Session) (name : String) (args : List String) :
    s.execute name args = ((s.table.execute name args).1,
      { s with
        buffer := (s.table.execute name args).1.output
        reported := s.reported ++ (s.table.execute name args).2 }) := by
  unfold execute CommandTable.execute
  cases known : s.table.handler? name with
  | none => simp [clear, push, known, CommandTable.unknownReply]
  | some handler =>
      cases returned : (handler args).returned <;>
        simp [clear, push, report, call, known, returned, CommandTable.panickedReply]

/-- Of all that is done with a table, only a registration changes it. -/
theorem table_act (s : Session) (a : Act) :
    (s.act a).2.table = match a with
      | .register name handler => s.table.register name handler
      | _ => s.table := by
  cases a with
  | execute name args => simp [act, execute_eq]
  | _ => rfl

/-! ### What a session knows -/

/-- A session runs, under each name, the handler that was registered last. -/
def Knows (s : Session) (registered : List (String × Handler)) : Prop :=
  ∀ name handler, s.table.handler? name = some handler ↔ Latest registered name handler

/-- What an act registers, if it does. -/
def Act.registration? : Act → Option (String × Handler)
  | .register name handler => some (name, handler)
  | _ => none

theorem knows_register {buffer : String} {reported : List Notice} {table : CommandTable}
    (knows : Knows ⟨table, buffer, reported⟩ registered) (name : String) (handler : Handler) :
    Knows ⟨table.register name handler, buffer, reported⟩ (registered ++ [(name, handler)]) := by
  intro wanted found
  rw [latest_concat, ← knows wanted found, CommandTable.handler?_register]
  split
  · exact Option.some_inj
  · rfl

theorem Knows.of_table (knows : s.Knows registered) (same : t.table = s.table) :
    t.Knows registered := by
  intro name handler
  rw [same]
  exact knows name handler

/-- Only a registration changes what a session knows, and it adds itself. -/
theorem Knows.act (knows : s.Knows registered) (a : Act) :
    (s.act a).2.Knows (registered ++ a.registration?.toList) := by
  cases a with
  | register name handler => exact knows_register knows name handler
  | contains name => simpa [Act.registration?] using knows.of_table (table_act s (.contains name))
  | execute name args =>
      simpa [Act.registration?] using knows.of_table (table_act s (.execute name args))

/-- What a session knows is what has been registered, whatever else it was told to do. -/
theorem Knows.after (knows : s.Knows registered) (acts : List Act) :
    (s.after acts).Knows (registered ++ acts.filterMap Act.registration?) := by
  induction acts generalizing s registered with
  | nil => simpa [Session.after] using knows
  | cons a acts ih =>
      have rest := ih (knows.act a)
      rw [List.append_assoc] at rest
      cases registers : a.registration? <;> simpa [registers, Session.after] using rest

/-- Whatever was registered under a name, something was registered last. -/
theorem exists_latest (known : (name, handler) ∈ registered) :
    ∃ latest, Latest registered name latest := by
  induction registered using List.reverseRecOn with
  | nil => cases known
  | append_singleton registered r ih =>
      obtain ⟨other, last⟩ := r
      simp only [latest_concat]
      by_cases same : name = other
      · exact ⟨last, by rw [if_pos same]⟩
      · simp only [if_neg same]
        apply ih
        obtain earlier | here := List.mem_append.1 known
        · exact earlier
        · cases List.mem_singleton.1 here
          contradiction

/-- A command is there if it has been registered at some time. -/
theorem Knows.contains_iff (knows : s.Knows registered) (name : String) :
    s.table.contains name = true ↔ ∃ handler, (name, handler) ∈ registered := by
  unfold CommandTable.contains
  rw [Option.isSome_iff_exists]
  constructor
  · rintro ⟨handler, runs⟩
    exact ⟨handler, ((knows name handler).1 runs).mem⟩
  · rintro ⟨handler, known⟩
    obtain ⟨latest, last⟩ := exists_latest known
    exact ⟨latest, (knows name latest).2 last⟩

/-- The reply of the table is the one that its registrations call for, and no other. -/
theorem Knows.replies_iff (knows : s.Knows registered) {name : String} {args : List String}
    {reply : Reply} :
    Replies registered name args reply ↔ reply = (s.table.execute name args).1 := by
  unfold CommandTable.execute
  constructor
  · rintro (⟨latest, returns⟩ | ⟨latest, panics⟩ | never)
    · simp [(knows name _).2 latest, returns]
    · simp [(knows name _).2 latest, panics, CommandTable.panickedReply, Limits.panickedCommand]
    · have unknown : s.table.handler? name = none := by
        rw [Option.eq_none_iff_forall_ne_some]
        intro handler runs
        exact never _ ((knows name handler).1 runs).mem rfl
      simp [unknown, CommandTable.unknownReply, Limits.unknownCommand]
  · rintro rfl
    cases runs : s.table.handler? name with
    | none =>
        apply Replies.unknown
        rintro ⟨_, handler⟩ inside rfl
        obtain ⟨latest, last⟩ := exists_latest inside
        rw [(knows _ latest).2 last] at runs
        cases runs
    | some handler =>
        have latest := (knows name handler).1 runs
        cases returned : (handler args).returned with
        | some code =>
            simp only [returned]
            exact Replies.returned latest returned
        | none =>
            simp only [returned]
            exact Replies.panicked latest returned

/-! ### What comes back -/

/-- Two sessions that run the same handlers under these names. -/
def Alike (names : String → Bool) (s t : Session) : Prop :=
  ∀ name, names name = true → s.table.handler? name = t.table.handler? name

variable {names : String → Bool}

/-- Sessions that agree on certain names still do when both have done the same. -/
theorem Alike.act (alike : Alike names s t) (a : Act) : Alike names (s.act a).2 (t.act a).2 := by
  intro name among
  rw [table_act, table_act]
  cases a with
  | register other handler => simp only [CommandTable.handler?_register, alike name among]
  | _ => exact alike name among

/-- Sessions that agree on a name give the same answer to whoever asks about it. -/
theorem Alike.answer (alike : Alike names s t) {a : Act} (among : names a.name = true) :
    (s.act a).1 = (t.act a).1 := by
  have same := alike a.name among
  cases a with
  | register name handler => rfl
  | contains name =>
      change s.table.handler? name = t.table.handler? name at same
      simp only [Session.act, CommandTable.contains, same]
  | execute name args =>
      change s.table.handler? name = t.table.handler? name at same
      simp only [Session.act, execute_eq, CommandTable.execute, same]

/-- What runs the same handlers under these names keeps giving the same answers about them. -/
theorem trace_of_alike (alike : Alike names s t) (acts : List Act) :
    (s.trace acts).filter (fun told => names told.1.name)
      = (t.trace acts).filter (fun told => names told.1.name) := by
  induction acts generalizing s t with
  | nil => rfl
  | cons a acts ih =>
      unfold trace
      rw [List.filter_cons, List.filter_cons, ih (alike.act a)]
      by_cases among : names a.name = true
      · rw [alike.answer among]
      · simp [among]

theorem trace_eq_of_alike (alike : Alike (fun _ => true) s t) (acts : List Act) :
    s.trace acts = t.trace acts := by
  have all (told : List (Act × Answer)) : told.filter (fun _ => true) = told :=
    List.filter_eq_self.2 fun _ _ => rfl
  have same := trace_of_alike alike acts
  rwa [all, all] at same

/-- Executing a command leaves nothing behind that a later answer depends on. -/
theorem alike_execute (s : Session) (name : String) (args : List String) :
    Alike names (s.act (.execute name args)).2 s := by
  intro other among
  rw [table_act]

/-- A registration makes no difference to the other names. -/
theorem alike_register (s : Session) (name : String) (handler : Handler) :
    Alike (· != name) (s.act (.register name handler)).2 s := by
  intro other apart
  have unregistered : other ≠ name := by simpa using apart
  rw [table_act, CommandTable.handler?_register, if_neg unregistered]

/-! ### In use -/

/-- The tables a session can begin with. -/
inductive Start where
  | bare
  | standard (properties : Handler)

namespace Start

def table : Start → CommandTable
  | .bare => .empty
  | .standard properties => .standard properties

/-- What is registered from the start. -/
def commands : Start → List (String × Handler)
  | .bare => []
  | .standard properties =>
      [("getversion", Builtin.version), ("properties", properties), ("echo", Builtin.echo)]

def session (start : Start) : Session := { table := start.table }

theorem knows_session (start : Start) : start.session.Knows start.commands := by
  have bare : Knows { table := .empty } [] :=
    fun _ _ => ⟨fun runs => (by cases runs), fun latest => absurd latest not_latest_nil⟩
  cases start with
  | bare => exact bare
  | standard properties =>
      have version := knows_register bare "getversion" Builtin.version
      have process := knows_register version "properties" properties
      exact knows_register process "echo" Builtin.echo

end Start

/-- Everything that was registered by now, the oldest first. -/
def registrations (start : Start) (history : List Act) : List (String × Handler) :=
  start.commands ++ history.filterMap Act.registration?

theorem knows_after (start : Start) (history : List Act) :
    (start.session.after history).Knows (registrations start history) :=
  start.knows_session.after history

theorem after_concat (s : Session) (history : List Act) (a : Act) :
    s.after (history ++ [a]) = ((s.after history).act a).2 := by
  simp [after]

/-- A table in use, after anything that was done with it. -/
structure Lasting (start : Start) (history : List Act) : Prop where
  contains : ∀ name, ∃ yes,
    ((start.session.after history).act (.contains name)).1 = .known yes
      ∧ (yes = true ↔ ∃ handler, (name, handler) ∈ registrations start history)
  /-- The reply is the one that the registrations call for, and no other. -/
  execute : ∀ name args, ∃ reply,
    ((start.session.after history).act (.execute name args)).1 = .replied reply
      ∧ ∀ other, Replies (registrations start history) name args other ↔ other = reply
  /-- Running a command changes nothing that comes back later, even if its handler panics. -/
  traceless : ∀ name args later,
    (start.session.after (history ++ [.execute name args])).trace later
      = (start.session.after history).trace later
  /-- A registration changes nothing that comes back later about other names. -/
  separate : ∀ name handler later,
    ((start.session.after (history ++ [.register name handler])).trace later).filter
        (fun told => told.1.name != name)
      = ((start.session.after history).trace later).filter (fun told => told.1.name != name)

/-- A table answers by what was registered last under the name, whatever was run on it and
whatever became of that. -/
theorem lasting (start : Start) (history : List Act) : Lasting start history where
  contains := by
    intro name
    exact ⟨_, rfl, (knows_after start history).contains_iff name⟩
  execute := by
    intro name args
    refine ⟨((start.session.after history).table.execute name args).1, ?_, ?_⟩
    · rw [act, execute_eq]
    · intro other
      exact (knows_after start history).replies_iff
  traceless := by
    intro name args later
    rw [after_concat]
    exact trace_eq_of_alike (alike_execute (start.session.after history) name args) later
  separate := by
    intro name handler later
    rw [after_concat]
    exact trace_of_alike (alike_register (start.session.after history) name handler) later

/-- What is written before a panic is in no reply, and a command of the start can be replaced. -/
example (properties : Handler) :
    ((Start.session (.standard properties)).trace
        [.register "boom" fun _ => ⟨"partial", none⟩, .execute "boom" [],
          .execute "echo" ["a", "b"], .register "echo" fun _ => ⟨"replaced", some 7⟩,
          .execute "echo" ["a"]]).map Prod.snd
      = [.done, .replied ⟨-2, "Operation boom failed"⟩, .replied ⟨0, "a b"⟩, .done,
          .replied ⟨7, "replaced"⟩] := by
  rfl

end Session

end AttachService
