/-
Module: AttachService.Proofs.Files.Scanning
Purpose: What a scan takes: the finished files of its own process that it can read and remove, all
  of them, and nothing else.
Trusted boundary: none
Main exports: Workdir.without, AttachFile.Claimable, AttachFile.claimOne_of_claimable,
  AttachFile.Takes, AttachFile.exists_takes, AttachFile.Lists, AttachFile.takes_own_files,
  AttachFile.claimAll_of_fault, AttachFile.GivesUp, AttachFile.gives_up_what_it_took
-/
import AttachService.Proofs.Files.Names

namespace AttachService

/-!
A scan goes through a listing and decides at each entry what becomes of it.  `Claimable` says on
its own, of the folder as it was before the scan, which entries are taken.  It can be said of that
folder since what is done with one entry leaves all others as they are.

A listing may break off.  Then the entries before that are taken all the same, but the names in
them are kept from whoever waits for them.
-/

/-! ### Leaving out several entries -/

namespace Workdir

/-- The tree without what is under these names in the folder to work in. -/
def without (w : Workdir) (names : List Name) : Workdir :=
  { w with entries := w.entries.filter fun e => e.1 ∉ names.map fun name => w.home ++ [name] }

theorem without_nil (w : Workdir) : w.without [] = w := by
  simp [without]

theorem without_cons (w : Workdir) (name : Name) (names : List Name) :
    w.without (name :: names) = (w.erase (w.home ++ [name])).without names := by
  simp only [without, erase, List.filter_filter, List.map_cons, List.mem_cons, not_or]
  congr 2
  funext e
  simp [Bool.and_comm]

/-- Names that are left out hold nothing, and the others hold what they held. -/
theorem holds_without (w : Workdir) (names : List Name) (name : Name) :
    (w.without names).holds name = if name ∈ names then none else w.holds name := by
  induction names generalizing w with
  | nil => rw [without_nil, if_neg List.not_mem_nil]
  | cons first others ih =>
      have alters := w.alters_erase first
      rw [without_cons, ih]
      by_cases later : name ∈ others
      · rw [if_pos later, if_pos (List.mem_cons_of_mem first later)]
      · rw [if_neg later]
        by_cases same : name = first
        · rw [same, alters.self, if_pos List.mem_cons_self]
        · have absent : name ∉ first :: others :=
            fun member => later ((List.mem_cons.1 member).resolve_left same)
          rw [alters.others name same, if_neg absent]

end Workdir

namespace AttachFile

variable {w : Workdir} {target : UInt32} {entry name : Name} {text : String}
  {listing : List Name}

/-! ### One entry -/

/-- What a process takes: a finished file that is for it by its name, with a text in it, which
can be read and removed. -/
structure Claimable (target : UInt32) (w : Workdir) (name : Name) (text : String) : Prop where
  named : ∃ shown, name = Utf8.encode shown ∧ (stem target).toList <+: shown.toList
    ∧ ¬ draftEnding.toList <:+ shown.toList
  held : w.holds name
    = some { kind := .file (Utf8.encode text), readFault := none, removeFault := none }

/-- None of the files for the process is a symbolic link.  What is read of a link is elsewhere, and
may be a file that the same scan has removed. -/
def Unlinked (target : UInt32) (w : Workdir) : Prop :=
  ∀ name entry, isFor target name = true → w.holds name = some entry →
    ∀ path, entry.kind ≠ .link path

/-- A process knows its files by their names, which have to be texts. -/
theorem isFor_iff : isFor target name = true ↔
    ∃ shown, name = Utf8.encode shown ∧ (stem target).toList <+: shown.toList
      ∧ ¬ draftEnding.toList <:+ shown.toList := by
  constructor
  · intro meant
    cases decoded : Utf8.decode name with
    | none => simp [isFor, decoded] at meant
    | some shown =>
        obtain rfl := Utf8.decode_eq_some_iff.1 decoded
        exact ⟨shown, rfl, (isFor_encode target shown).1 meant⟩
  · rintro ⟨shown, rfl, meant⟩
    exact (isFor_encode target shown).2 meant

/-- There is one text in a file. -/
theorem Claimable.text_eq {other : String} (one : Claimable target w name text)
    (two : Claimable target w name other) : text = other := by
  have same := one.held.symm.trans two.held
  injection same with same
  injection same with kind
  injection kind with bytes
  exact Utf8.encode_injective bytes

/-- A text is read where there is a file with the encoding of it, which can be read. -/
theorem readText_eq_ok_iff (simple : Path.Simple name)
    (plain : ∀ entry, w.holds name = some entry → ∀ path, entry.kind ≠ .link path) :
    readText w name = .ok text
      ↔ ∃ removeFault, w.holds name = some ⟨.file (Utf8.encode text), none, removeFault⟩ := by
  rw [← Workdir.read_eq_ok_iff simple plain, readText]
  cases w.read name with
  | error fault => simp
  | ok bytes =>
      rw [Except.ok.injEq, ← Utf8.decode_eq_some_iff]
      dsimp only
      cases Utf8.decode bytes <;> simp

theorem readText_of_text (simple : Path.Simple name)
    (found : w.holds name = some { kind := .file (Utf8.encode text) }) :
    readText w name = .ok text := by
  have plain : ∀ entry, w.holds name = some entry → ∀ path, entry.kind ≠ .link path := by
    intro entry there path
    rw [found] at there
    cases there
    nofun
  exact (readText_eq_ok_iff simple plain).2 ⟨none, found⟩

/-- A file that can be taken is removed, whether or not there is anything in it. -/
theorem claimOne_of_claimable (simple : Path.Simple name)
    (claimable : Claimable target w name text) :
    claimOne target w name
      = if Text.trim text = "" then
          (none, w.erase (w.home ++ [name]), [.fileEmpty (Utf8.decodeLossy name)])
        else (some (Text.trim text), w.erase (w.home ++ [name]), []) := by
  have read := readText_of_text simple claimable.held
  have removed : w.remove name = .ok (w.erase (w.home ++ [name])) :=
    (Workdir.remove_eq_ok_iff simple).2 ⟨⟨_, claimable.held, nofun, rfl⟩, rfl⟩
  simp only [claimOne, if_pos (isFor_iff.2 claimable.named), read, removed]

/-- What is not taken is left alone. -/
theorem claimOne_of_not_claimable (simple : Path.Simple name) (unlinked : Unlinked target w)
    (unfit : ∀ text, ¬ Claimable target w name text) :
    ∃ notices, claimOne target w name = (none, w, notices) := by
  unfold claimOne
  by_cases meant : isFor target name = true
  · rw [if_pos meant]
    have plain : ∀ entry, w.holds name = some entry → ∀ path, entry.kind ≠ .link path :=
      fun entry => unlinked name entry meant
    cases read : readText w name with
    | error fault => exact ⟨_, rfl⟩
    | ok text =>
        obtain ⟨removeFault, found⟩ := (readText_eq_ok_iff simple plain).1 read
        cases removeFault with
        | none => exact absurd ⟨isFor_iff.1 meant, found⟩ (unfit text)
        | some fault =>
            have kept : w.remove name = .error fault := by
              rw [Workdir.remove_of_simple simple, found]
              rfl
            simp only [kept]
            exact ⟨_, rfl⟩
  · rw [if_neg meant]
    exact ⟨_, rfl⟩

/-! ### A whole listing -/

/-- What a scan of a listing takes: `taken` are the names of the files, each with the text in it. -/
structure Takes (target : UInt32) (w : Workdir) (listing : List Name)
    (taken : List (Name × String)) (claimed : Claimed) : Prop where
  /-- They are taken in the order of the listing. -/
  order : (taken.map Prod.fst).Sublist listing
  member : ∀ name text, (name, text) ∈ taken ↔ name ∈ listing ∧ Claimable target w name text
  channels : claimed.channels = .ok ((taken.map fun file => Text.trim file.2).filter (· ≠ ""))
  /-- They are gone, and all else is as it was. -/
  left : claimed.workdir = w.without (taken.map Prod.fst)

/-- Nothing that is done with one entry makes a difference to another one. -/
theorem claimable_erase (apart : name ≠ entry) :
    Claimable target (w.erase (w.home ++ [entry])) name text ↔ Claimable target w name text := by
  have others := (w.alters_erase entry).others name apart
  constructor
  · intro claimable
    exact ⟨claimable.named, others ▸ claimable.held⟩
  · intro claimable
    exact ⟨claimable.named, others.trans claimable.held⟩

/-- Removing an entry makes no links. -/
theorem Unlinked.erase (unlinked : Unlinked target w) (entry : Name) :
    Unlinked target (w.erase (w.home ++ [entry])) := by
  intro name held meant found
  by_cases same : name = entry
  · rw [same, (w.alters_erase entry).self] at found
    cases found
  · rw [(w.alters_erase entry).others name same] at found
    exact unlinked name held meant found

/-- The first entry, and then the others. -/
theorem claimAll_cons (target : UInt32) (w : Workdir) (entry : Name)
    (rest : List (Except Fault Name)) :
    claimAll target w (.ok entry :: rest)
      = { channels := (claimAll target (claimOne target w entry).2.1 rest).channels.map
            ((claimOne target w entry).1.toList ++ ·)
          workdir := (claimAll target (claimOne target w entry).2.1 rest).workdir
          notices := (claimOne target w entry).2.2
            ++ (claimAll target (claimOne target w entry).2.1 rest).notices } := rfl

/-- An entry that is taken comes before those that are taken after it. -/
theorem Takes.cons {rest : List Name} {taken : List (Name × String)} (new : entry ∉ rest)
    (simple : Path.Simple entry) (claimable : Claimable target w entry text)
    (takes : Takes target (w.erase (w.home ++ [entry])) rest taken
      (claimAll target (w.erase (w.home ++ [entry])) (rest.map .ok))) :
    Takes target w (entry :: rest) ((entry, text) :: taken)
      (claimAll target w ((entry :: rest).map .ok)) where
  order := takes.order.cons_cons entry
  member name other := by
    constructor
    · intro member
      rcases List.mem_cons.1 member with same | later
      · cases same
        exact ⟨List.mem_cons_self, claimable⟩
      · obtain ⟨among, fits⟩ := (takes.member name other).1 later
        have apart : name ≠ entry := fun same => new (same ▸ among)
        exact ⟨List.mem_cons_of_mem entry among, (claimable_erase apart).1 fits⟩
    · rintro ⟨among, fits⟩
      by_cases same : name = entry
      · subst same
        rw [claimable.text_eq fits]
        exact List.mem_cons_self
      · have later := (List.mem_cons.1 among).resolve_left same
        exact List.mem_cons_of_mem _
          ((takes.member name other).2 ⟨later, (claimable_erase same).2 fits⟩)
  channels := by
    rw [List.map_cons, claimAll_cons, claimOne_of_claimable simple claimable]
    by_cases blank : Text.trim text = ""
    · simp [blank, takes.channels, Except.map]
    · simp [blank, takes.channels, Except.map]
  left := by
    rw [List.map_cons, claimAll_cons, claimOne_of_claimable simple claimable, List.map_cons,
      Workdir.without_cons, ← takes.left]
    split <;> rfl

/-- An entry that is not taken makes no difference. -/
theorem Takes.skip {rest : List Name} {taken : List (Name × String)} {notices : List Notice}
    (unfit : ∀ text, ¬ Claimable target w entry text)
    (skipped : claimOne target w entry = (none, w, notices))
    (takes : Takes target w rest taken (claimAll target w (rest.map .ok))) :
    Takes target w (entry :: rest) taken (claimAll target w ((entry :: rest).map .ok)) where
  order := takes.order.cons entry
  member name text := by
    rw [takes.member, List.mem_cons]
    constructor
    · exact And.imp_left .inr
    · rintro ⟨rfl | later, fits⟩
      · exact absurd fits (unfit text)
      · exact ⟨later, fits⟩
  channels := by
    rw [List.map_cons, claimAll_cons, skipped, takes.channels]
    rfl
  left := by
    rw [List.map_cons, claimAll_cons, skipped, takes.left]

/-- Whatever is listed, some of it is taken, and the rest is left alone. -/
theorem exists_takes (once : listing.Nodup) (simple : ∀ name ∈ listing, Path.Simple name)
    (unlinked : Unlinked target w) :
    ∃ taken, Takes target w listing taken (claimAll target w (listing.map .ok)) := by
  -- The rest is scanned in the folder that the first entry leaves, where it is as claimable.
  induction listing generalizing w with
  | nil =>
      refine ⟨[], .slnil, ?_, rfl, w.without_nil.symm⟩
      intro name text
      simp
  | cons entry rest ih =>
      obtain ⟨new, once⟩ := List.nodup_cons.1 once
      have first := simple entry List.mem_cons_self
      have others : ∀ name ∈ rest, Path.Simple name :=
        fun name member => simple name (List.mem_cons_of_mem entry member)
      by_cases fit : ∃ text, Claimable target w entry text
      · obtain ⟨text, claimable⟩ := fit
        obtain ⟨taken, takes⟩ := ih once others (unlinked.erase entry)
        exact ⟨_, takes.cons new first claimable⟩
      · have unfit : ∀ text, ¬ Claimable target w entry text := not_exists.1 fit
        obtain ⟨notices, skipped⟩ := claimOne_of_not_claimable first unlinked unfit
        obtain ⟨taken, takes⟩ := ih once others unlinked
        exact ⟨taken, takes.skip unfit skipped⟩

/-! ### All of a folder -/

/-- A listing of the folder to work in: every name in it once, in any order, each of which can
stand for an entry. -/
structure Lists (w : Workdir) (listing : List Name) : Prop where
  once : listing.Nodup
  all : ∀ name, name ∈ listing ↔ (w.holds name).isSome
  simple : ∀ name ∈ listing, Path.Simple name

/-- A folder may be listed in the order of its entries. -/
theorem lists_names (once : w.names.Nodup) (simple : ∀ name ∈ w.names, Path.Simple name) :
    Lists w w.names :=
  ⟨once, fun _ => Workdir.mem_names_iff, simple⟩

/-- Without anything to take, a scan changes nothing and yields nothing. -/
theorem Takes.nothing {taken : List (Name × String)} {claimed : Claimed}
    (takes : Takes target w listing taken claimed)
    (unfit : ∀ name text, ¬ Claimable target w name text) :
    claimed.channels = .ok [] ∧ claimed.workdir = w := by
  obtain rfl : taken = [] := by
    apply List.eq_nil_iff_forall_not_mem.2
    rintro ⟨name, text⟩ member
    exact unfit name text ((takes.member name text).1 member).2
  exact ⟨takes.channels, takes.left.trans w.without_nil⟩

/-- What is left after a scan of a whole folder has nothing in it for another one. -/
theorem Takes.not_claimable {taken : List (Name × String)} {claimed : Claimed}
    (takes : Takes target w listing taken claimed) (lists : Lists w listing) (name : Name)
    (text : String) : ¬ Claimable target claimed.workdir name text := by
  intro claimable
  have held := claimable.held
  rw [takes.left, Workdir.holds_without] at held
  split at held
  · cases held
  · next untouched =>
      have listed : name ∈ listing := (lists.all name).2 (by rw [held]; rfl)
      have member := (takes.member name text).2 ⟨listed, claimable.named, held⟩
      exact untouched (List.mem_map_of_mem member)

/-- A scan leaves no more links than there were. -/
theorem Takes.unlinked {taken : List (Name × String)} {claimed : Claimed}
    (takes : Takes target w listing taken claimed) (unlinked : Unlinked target w) :
    Unlinked target claimed.workdir := by
  intro name entry meant found
  rw [takes.left, Workdir.holds_without] at found
  split at found
  · cases found
  · exact unlinked name entry meant found

/-- A scan takes all that the process can claim and nothing else, and leaves nothing to a second
one. -/
theorem takes_own_files (lists : Lists w listing) (unlinked : Unlinked target w) :
    ∃ taken, Takes target w listing taken (claimAll target w (listing.map .ok))
      ∧ ∀ again, Lists (claimAll target w (listing.map .ok)).workdir again →
        (claimAll target (claimAll target w (listing.map .ok)).workdir (again.map .ok)).channels
            = .ok []
          ∧ (claimAll target (claimAll target w (listing.map .ok)).workdir
              (again.map .ok)).workdir
            = (claimAll target w (listing.map .ok)).workdir := by
  obtain ⟨taken, takes⟩ := exists_takes lists.once lists.simple unlinked
  refine ⟨taken, takes, ?_⟩
  intro again relists
  obtain ⟨nothing, second⟩ := exists_takes relists.once relists.simple (takes.unlinked unlinked)
  exact second.nothing (takes.not_claimable lists)

/-- A folder with a file to take, a blank one, and one each that is only a draft, for somebody
else, a folder, unreadable, not a text, and there to stay. -/
def mixed : Workdir where
  entries := [
    ([Utf8.encode ".attach_pid7_a"], { kind := .file (Utf8.encode " /tmp/c\n") }),
    ([Utf8.encode ".attach_pid7_b"], { kind := .file (Utf8.encode " \n") }),
    ([Utf8.encode ".attach_pid7_c.tmp"], { kind := .file (Utf8.encode "/tmp/d") }),
    ([Utf8.encode ".attach_pid71_d"], { kind := .file (Utf8.encode "/tmp/e") }),
    ([Utf8.encode ".attach_pid7_e"], { kind := .folder }),
    ([Utf8.encode ".attach_pid7_f"],
      { kind := .file (Utf8.encode "/tmp/f"), readFault := some (.plain .permissionDenied) }),
    ([Utf8.encode ".attach_pid7_g"], { kind := .file [0xFF] }),
    ([Utf8.encode ".attach_pid7_h"],
      { kind := .file (Utf8.encode "/tmp/h"), removeFault := some (.plain .resourceBusy) })]

theorem lists_mixed : Lists mixed mixed.names :=
  lists_names (by decide +kernel) (by decide +kernel)

theorem unlinked_mixed : Unlinked 7 mixed := by
  intro name entry meant found path linked
  have plain : ∀ e ∈ mixed.entries, e.2.kind = .folder ∨ ∃ contents, e.2.kind = .file contents := by
    simp [mixed]
  rcases plain _ (Workdir.mem_entries_of_holds found) with folder | ⟨contents, file⟩
  · cases folder.symm.trans linked
  · cases file.symm.trans linked

/-- Two files are taken from it, the blank one without a word. -/
theorem takes_own_files_mixed : Lists mixed mixed.names ∧ Unlinked 7 mixed
    ∧ (∃ taken, Takes 7 mixed mixed.names taken (claimAll 7 mixed (mixed.names.map .ok)))
    ∧ (claimAll 7 mixed (mixed.names.map .ok)).channels.toOption = some ["/tmp/c"]
    ∧ (claimAll 7 mixed (mixed.names.map .ok)).workdir.names = mixed.names.drop 2 := by
  obtain ⟨taken, takes, -⟩ := takes_own_files lists_mixed unlinked_mixed
  refine ⟨lists_mixed, unlinked_mixed, ⟨taken, takes⟩, ?_, ?_⟩
  · decide +kernel
  · decide +kernel

/-! ### A listing that breaks off -/

/-- What is claimed before a listing breaks off is claimed as if it ended there.  Only, the names
are given up. -/
theorem claimAll_of_fault (target : UInt32) (w : Workdir) (front : List Name) (fault : Fault)
    (rest : List (Except Fault Name)) :
    claimAll target w (front.map .ok ++ .error fault :: rest)
      = { claimAll target w (front.map .ok) with channels := .error fault } := by
  induction front generalizing w with
  | nil => rfl
  | cons entry front ih =>
      rw [List.map_cons, List.cons_append, claimAll_cons, ih, claimAll_cons]
      rfl

/-- Up to the first listing that breaks off, all is heard of. -/
theorem stream_append {earlier : List Claimed}
    (whole : ∀ claimed ∈ earlier, ∃ channels, claimed.channels = .ok channels)
    (later : List Claimed) :
    stream (earlier ++ later) = earlier.flatMap Claimed.arrivals ++ stream later := by
  induction earlier with
  | nil => rfl
  | cons claimed earlier ih =>
      obtain ⟨channels, ended⟩ := whole claimed List.mem_cons_self
      have others := ih fun claimed member => whole claimed (List.mem_cons_of_mem _ member)
      rw [List.cons_append, stream, ended, others, List.flatMap_cons, List.append_assoc]

/-- What becomes of the files that were taken before the listing broke off. -/
structure GivesUp (target : UInt32) (w : Workdir) (front : List Name) (fault : Fault)
    (taken : List (Name × String)) (broken : Claimed) : Prop where
  order : (taken.map Prod.fst).Sublist front
  member : ∀ name text, (name, text) ∈ taken ↔ name ∈ front ∧ Claimable target w name text
  /-- They are gone. -/
  left : broken.workdir = w.without (taken.map Prod.fst)
  /-- After what was heard of earlier scans, all that is ever heard is the fault. -/
  unheard : ∀ earlier later, (∀ claimed ∈ earlier, ∃ channels, claimed.channels = .ok channels) →
    stream (earlier ++ broken :: later)
      = earlier.flatMap Claimed.arrivals ++ [.failure fault.text]
  /-- So no name is lost only if there was no name in any of them. -/
  lossless : (∀ name text, (name, text) ∈ taken → Text.trim text ≠ "" →
      .request (Text.trim text) ∈ broken.arrivals)
    ↔ ∀ name text, (name, text) ∈ taken → Text.trim text = ""

/-- A scan whose listing breaks off has taken what it came to before that, and nobody hears of
it. -/
theorem gives_up_what_it_took {front unseen : List Name} (lists : Lists w (front ++ unseen))
    (unlinked : Unlinked target w) (fault : Fault) (rest : List (Except Fault Name)) :
    ∃ taken, GivesUp target w front fault taken
      (claimAll target w (front.map .ok ++ .error fault :: rest)) := by
  have simple : ∀ name ∈ front, Path.Simple name :=
    fun name member => lists.simple name (List.mem_append_left unseen member)
  obtain ⟨taken, takes⟩ :=
    exists_takes (List.nodup_append.1 lists.once).1 simple unlinked
  have arrivals : (claimAll target w (front.map .ok ++ .error fault :: rest)).arrivals
      = [.failure fault.text] := by
    rw [claimAll_of_fault, Claimed.arrivals]
  exists taken
  constructor
  · exact takes.order
  · exact takes.member
  · rw [claimAll_of_fault]
    exact takes.left
  · intro earlier later whole
    rw [stream_append whole, stream, arrivals, claimAll_of_fault]
  · rw [arrivals]
    constructor
    · intro heard name text member
      by_contra named
      cases List.mem_singleton.1 (heard name text member named)
    · intro blank name text member named
      exact absurd (blank name text member) named

/-- The same folder, with a listing that breaks off after the files that are taken. -/
theorem gives_up_what_it_took_mixed :
    Lists mixed (mixed.names.take 2 ++ mixed.names.drop 2) ∧ Unlinked 7 mixed
      ∧ ∃ taken, GivesUp 7 mixed (mixed.names.take 2) (.plain .other) taken
        (claimAll 7 mixed ((mixed.names.take 2).map .ok ++ [.error (.plain .other)])) := by
  have lists : Lists mixed (mixed.names.take 2 ++ mixed.names.drop 2) := by
    rw [List.take_append_drop]
    exact lists_mixed
  exact ⟨lists, unlinked_mixed, gives_up_what_it_took lists unlinked_mixed _ _⟩

/-- The name in the first file is lost: the file is gone, and whatever is scanned later, there is
no request for it. -/
theorem loses_claimed :
    let broken := claimAll 7 mixed
      [.ok (Utf8.encode ".attach_pid7_a"), .error ⟨.other, "input/output error"⟩]
    (readText mixed (Utf8.encode ".attach_pid7_a")).toOption = some " /tmp/c\n"
      ∧ broken.workdir.holds (Utf8.encode ".attach_pid7_a") = none
      ∧ ∀ later, .request "/tmp/c" ∉ stream (broken :: later) := by
  intro broken
  refine ⟨by decide +kernel, by decide +kernel, ?_⟩
  intro later heard
  have faulted : broken.channels = .error ⟨.other, "input/output error"⟩ := by decide +kernel
  rw [stream, Claimed.arrivals, faulted] at heard
  cases List.mem_singleton.1 heard

end AttachFile

end AttachService
