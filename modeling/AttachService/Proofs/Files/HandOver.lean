/-
Module: AttachService.Proofs.Files.HandOver
Purpose: How the name of a channel gets from a client to the intake of its target: through a file,
  and without the blanks in front of it.
Trusted boundary: none
Main exports: Workdir.publish_of_vacant, AttachFile.claimOne_of_text, AttachFile.claimAll_of_mem,
  trim_channelName, Machine.Vacant, Summons.send_of_vacant, Summons.HandsOver, Summons.hands_over
-/
import AttachService.Errand
import AttachService.Proofs.Files.Scanning
import AttachService.Proofs.Intake.Deciding
import AttachService.Proofs.Text.Trimming

namespace AttachService

/-!
Client and target agree on the prefix of channel names, and each looks at it on its own: the
client begins the name with it, and the intake refuses a channel whose name begins with anything
else.  In between the name is in a file, and whoever claims the file trims it.
-/

/-! ### Publishing where nothing is -/

namespace Workdir

variable {w : Workdir} {name : Name}

/-- A file that is published through a draft of its own is the only thing that is new. -/
theorem publish_of_vacant (named : AttachFile.IsName name)
    (draft : w.holds (OwnedFile.draft name) = none)
    (room : ∀ there, w.holds name = some there → there.kind ≠ .folder)
    (contents : List UInt8) :
    ∃ after, OwnedFile.publish {} w name contents = (.ok ⟨name⟩, after)
      ∧ w.Alters name (some { kind := .file contents }) after := by
  have apart : name ≠ OwnedFile.draft name := named.ne_draft named
  obtain ⟨made, created, drafted⟩ := write_of_vacant named.simple_draft draft contents
  have still : ∀ there, (made.append (w.home ++ [OwnedFile.draft name]) contents).holds name
      = some there → there.kind ≠ .folder := by
    intro there found
    rw [drafted.others name apart] at found
    exact room there found
  obtain ⟨between, after, renamed, gone, new⟩ :=
    exists_rename named.simple_draft named.simple drafted.self nofun still
  exists after
  constructor
  · simp only [OwnedFile.publish, created, OwnedFile.promote, renamed]
  · constructor
    · rw [new.home, gone.home, drafted.home]
    · exact new.self
    · intro other different
      rw [new.others other different]
      by_cases same : other = OwnedFile.draft name
      · rw [same, gone.self, draft]
      · rw [gone.others other same, drafted.others other same]

end Workdir

/-! ### Claiming -/

namespace AttachFile

variable {w : Workdir} {target : UInt32} {entry name : Name} {text : String}

/-- A file with a text in it is claimed, and gives the text without the blanks around it. -/
theorem claimOne_of_text (meant : isFor target name = true) (simple : Path.Simple name)
    (found : w.holds name = some { kind := .file (Utf8.encode text) })
    (some : Text.trim text ≠ "") :
    claimOne target w name = (.some (Text.trim text), w.erase (w.home ++ [name]), []) := by
  have claimable : Claimable target w name text := ⟨isFor_iff.1 meant, found⟩
  rw [claimOne_of_claimable simple claimable, if_neg some]

/-- Claiming one entry leaves the others alone. -/
theorem holds_claimOne (simple : Path.Simple entry) (apart : name ≠ entry) :
    (claimOne target w entry).2.1.holds name = w.holds name := by
  unfold claimOne
  split
  · split
    · rfl
    · split
      · rfl
      · next after removed =>
          have alters := Workdir.alters_of_remove simple removed
          dsimp only
          split <;> exact alters.others name apart
  · rfl

/-- A listing that does not break off gives the channel names in it. -/
theorem exists_claimAll (target : UInt32) (w : Workdir) (listing : List Name) :
    ∃ channels, (claimAll target w (listing.map .ok)).channels = .ok channels := by
  induction listing generalizing w with
  | nil => exact ⟨[], rfl⟩
  | cons entry rest ih =>
      obtain ⟨channels, claimed⟩ := ih (claimOne target w entry).2.1
      refine ⟨(claimOne target w entry).1.toList ++ channels, ?_⟩
      simp only [List.map_cons, claimAll, claimed]
      rfl

/-- A file that is listed is claimed, whatever else is claimed before it and after it. -/
theorem claimAll_of_mem {listing : List Name} (simple : ∀ entry ∈ listing, Path.Simple entry)
    (meant : isFor target name = true) (listed : name ∈ listing)
    (found : w.holds name = some { kind := .file (Utf8.encode text) })
    (some : Text.trim text ≠ "") :
    ∃ front back, (claimAll target w (listing.map .ok)).channels
      = .ok (front ++ Text.trim text :: back) := by
  induction listing generalizing w with
  | nil => cases listed
  | cons entry rest ih =>
      have plain := simple entry List.mem_cons_self
      by_cases same : name = entry
      · subst same
        obtain ⟨channels, claimed⟩ := exists_claimAll target (w.erase (w.home ++ [name])) rest
        refine ⟨[], channels, ?_⟩
        simp only [List.map_cons, claimAll, claimOne_of_text meant plain found some, claimed]
        rfl
      · have later := (List.mem_cons.1 listed).resolve_left same
        have left : (claimOne target w entry).2.1.holds name
            = .some { kind := .file (Utf8.encode text) } := by
          rw [holds_claimOne plain same, found]
        obtain ⟨front, back, claimed⟩ :=
          ih (fun other member => simple other (List.mem_cons_of_mem entry member)) later left
        refine ⟨(claimOne target w entry).1.toList ++ front, back, ?_⟩
        simp only [List.map_cons, claimAll, claimed, List.append_assoc]
        rfl

end AttachFile

/-! ### The name of a channel -/

section Naming

variable {channelPrefix : String} {target client counter : UInt32}

/-- The prefix comes first, and the rest does not depend on it. -/
theorem channelName_eq (channelPrefix : String) (target client counter : UInt32) :
    channelName channelPrefix target client counter
      = channelPrefix ++ channelName "" target client counter := by
  simp [channelName, String.append_assoc]

/-- What comes after the prefix is made of digits and underscores. -/
theorem not_blank_channelName {c : Char}
    (member : c ∈ (channelName "" target client counter).toList) : Text.isBlank c = false := by
  simp only [channelName, AttachFile.nonce, String.toList_append, List.mem_append] at member
  rcases member with ((nothing | digits) | mark) | (digits | mark) | digits
  · cases nothing
  · exact Text.isBlank_of_isDigit (Numeral.isDigit_of_mem_ofNat digits)
  · cases List.mem_singleton.1 mark
    decide
  · exact Text.isBlank_of_isDigit (Numeral.isDigit_of_mem_ofNat digits)
  · cases List.mem_singleton.1 mark
    decide
  · exact Text.isBlank_of_isDigit (Numeral.isDigit_of_mem_ofNat digits)

/-- What follows the prefix begins and ends with something that trimming leaves. -/
theorem solid_channelName (target client counter : UInt32) :
    Text.Solid (channelName "" target client counter).toList :=
  Text.Solid.of_not_blank fun _ => not_blank_channelName

theorem channelName_ne_nil (channelPrefix : String) (target client counter : UInt32) :
    (channelName channelPrefix target client counter).toList ≠ [] := by
  simp [channelName, String.toList_append]

/-- Whoever trims the name of a channel takes away blanks in front of the prefix, if there are
any, and nothing else. -/
theorem trim_channelName (channelPrefix : String) (target client counter : UInt32) :
    Text.trim (channelName channelPrefix target client counter)
      = channelName (Text.undent channelPrefix) target client counter := by
  have trimmed := Text.trim_append_of_solid (s := channelPrefix)
    (solid_channelName target client counter) (channelName_ne_nil "" target client counter)
  rw [channelName_eq, trimmed, ← channelName_eq]

/-- Trimming takes nothing from the name of a channel but the blanks that its prefix begins with.
-/
theorem channelName_undent_eq_iff :
    channelName (Text.undent channelPrefix) target client counter
        = channelName channelPrefix target client counter
      ↔ ¬ Text.Indented channelPrefix := by
  rw [channelName_eq (Text.undent channelPrefix), channelName_eq channelPrefix,
    String.append_left_inj, Text.undent_eq_self_iff]

/-! ### At the intake -/

/-- All that can be wrong with a request for a channel is the name of the channel. -/
theorem Relay.submission_acceptable_iff {channel : String} :
    (Relay.submission channel).Acceptable channelPrefix
      ↔ channel.utf8ByteSize ≤ Limits.channelBytes ∧ channelPrefix.toList <+: channel.toList := by
  constructor
  · intro acceptable
    exact ⟨acceptable.1.2.2, acceptable.2⟩
  · intro named
    refine ⟨⟨Nat.zero_le _, ?_, named.1⟩, named.2⟩
    intro arg member
    have empty : arg = "" := by simpa [Relay.submission] using member
    rw [empty]
    exact Nat.zero_le _

/-- The name that is claimed is acceptable unless the prefix has blanks in front: it is without
them, and the prefix that it is compared with is not. -/
theorem acceptable_undent_iff
    (short : (channelName channelPrefix target client counter).utf8ByteSize
      ≤ Limits.channelBytes) :
    (Relay.submission (channelName (Text.undent channelPrefix) target client counter)).Acceptable
        channelPrefix
      ↔ ¬ Text.Indented channelPrefix := by
  have named : channelPrefix.toList
        <+: (channelName (Text.undent channelPrefix) target client counter).toList
      ↔ ¬ Text.Indented channelPrefix := by
    rw [channelName_eq]
    exact Text.prefix_undent_append_iff (solid_channelName _ _ _) (channelName_ne_nil _ _ _ _)
  rw [Relay.submission_acceptable_iff, named]
  constructor
  · intro acceptable
    exact acceptable.2
  · intro plain
    rw [channelName_undent_eq_iff.2 plain]
    exact ⟨short, plain⟩

end Naming

/-! ### From the client to the intake -/

namespace Machine

/-- The name of the file that the next attempt of the client is going to publish. -/
def nextFile (m : Machine) : Name := Utf8.encode (AttachFile.name m.pid m.client m.attempts)

/-- Nothing is in the way of the next attempt, and what the folder lists are names that can
stand for an entry. -/
structure Vacant (m : Machine) : Prop where
  draft : m.workdir.holds (OwnedFile.draft m.nextFile) = none
  room : ∀ there, m.workdir.holds m.nextFile = some there → there.kind ≠ .folder
  listed : ∀ entry ∈ m.workdir.names, Path.Simple entry

theorem isName_nextFile (m : Machine) : AttachFile.IsName m.nextFile := ⟨_, _, _, rfl⟩

end Machine

namespace Summons

variable {m after : Machine} {channelPrefix : String} {counter : UInt32}

/-- Where nothing is in the way, the target is summoned, and a file with the name of the channel
in it is the only thing that is new in its folder. -/
theorem send_of_vacant (vacant : m.Vacant) (channel : String) :
    ∃ workdir, send {} { target := m.pid, channel := channel } m
        = (.ok (), { target := m.pid, channel := channel, file := some ⟨m.nextFile⟩ },
          { m with workdir := workdir, attempts := m.attempts + 1, quits := m.quits + 1 })
      ∧ m.workdir.Alters m.nextFile (some { kind := .file (Utf8.encode channel) }) workdir := by
  obtain ⟨workdir, published, alters⟩ :=
    Workdir.publish_of_vacant m.isName_nextFile vacant.draft vacant.room (Utf8.encode channel)
  exists workdir
  constructor
  · simp only [Machine.nextFile] at published
    simp [send, publish, ring, Machine.directoryOf, Machine.quit, published, Machine.nextFile]
  · exact alters

/-- What becomes of the name of a channel that a client hands over to its target: `claimed` is
what the target makes of it. -/
structure HandsOver (m : Machine) (channelPrefix : String) (counter : UInt32) (sent : Summons)
    (after : Machine) (claimed : String) : Prop where
  sends : send {} { target := m.pid, channel := channelName channelPrefix m.pid m.client counter } m
    = (.ok (), sent, after)
  /-- The name is in the file as it is. -/
  writes : AttachFile.readText after.workdir m.nextFile
    = .ok (channelName channelPrefix m.pid m.client counter)
  claims : (AttachFile.claimOne m.pid after.workdir m.nextFile).1 = some claimed
  yields : ∃ front back, (AttachFile.scan m.pid after.workdir).channels
    = .ok (front ++ claimed :: back)
  undented : claimed = channelName (Text.undent channelPrefix) m.pid m.client counter
  exact : claimed = channelName channelPrefix m.pid m.client counter
    ↔ ¬ Text.Indented channelPrefix
  /-- An intake with this prefix takes it for an illegal argument if there were blanks in front,
  and never otherwise. -/
  illegal : ∀ (intake : Intake) (sees : Nat → Bool), intake.settings.channelPrefix = channelPrefix →
    ((intake.submitSeeing sees (Relay.submission claimed)).1 = .error .illegal
      ↔ intake.Seen sees ∧ Text.Indented channelPrefix)

/-- The name of a channel gets to the intake without the blanks in front of its prefix.  So it
gets there as it is, and is no illegal argument there, if and only if there are none. -/
theorem hands_over (vacant : m.Vacant)
    (short : (channelName channelPrefix m.pid m.client counter).utf8ByteSize
      ≤ Limits.channelBytes) :
    ∃ sent after claimed, HandsOver m channelPrefix counter sent after claimed := by
  obtain ⟨workdir, sends, alters⟩ :=
    send_of_vacant vacant (channelName channelPrefix m.pid m.client counter)
  have simple := m.isName_nextFile.simple
  have meant : AttachFile.isFor m.pid m.nextFile = true := AttachFile.isFor_name _ _ _
  have some : Text.trim (channelName channelPrefix m.pid m.client counter) ≠ "" := by
    rw [trim_channelName, ← String.toList_inj.ne]
    exact channelName_ne_nil _ _ _ _
  have listed : m.nextFile ∈ workdir.names := by
    rw [Workdir.mem_names_iff, alters.self]
    rfl
  have simples : ∀ entry ∈ workdir.names, Path.Simple entry := by
    intro entry member
    by_cases same : entry = m.nextFile
    · rw [same]
      exact simple
    · apply vacant.listed
      rw [Workdir.mem_names_iff] at member ⊢
      rw [← alters.others entry same]
      exact member
  have claims := AttachFile.claimOne_of_text meant simple alters.self some
  have yields := AttachFile.claimAll_of_mem simples meant listed alters.self some
  rw [trim_channelName] at claims yields
  exact ⟨_, _, _, {
    sends := sends
    writes := AttachFile.readText_of_text simple alters.self
    claims := by
      rw [claims]
    yields := yields
    undented := rfl
    exact := channelName_undent_eq_iff
    illegal := by
      intro intake sees agreed
      rw [Intake.submitSeeing_eq_illegal_iff, agreed, acceptable_undent_iff short, not_not] }⟩

/-- A client with a number of its own, and a target with something else in its folder. -/
theorem hands_over_plain :
    ({ pid := 7
       client := 9
       workdir := { entries := [([[0x61]], { kind := .folder })] } } : Machine).Vacant
      ∧ (channelName "/tmp/a b" 7 9 0).utf8ByteSize ≤ Limits.channelBytes
      ∧ ∃ sent after claimed, HandsOver
        { pid := 7
          client := 9
          workdir := { entries := [([[0x61]], { kind := .folder })] } }
        "/tmp/a b" 0 sent after claimed := by
  have vacant : ({ pid := 7
                   client := 9
                   workdir := { entries := [([[0x61]], { kind := .folder })] } }
      : Machine).Vacant := by
    constructor
    · decide +kernel
    · intro there found
      have nothing : Workdir.holds { entries := [([[0x61]], { kind := .folder })] }
          (Utf8.encode (AttachFile.name 7 9 0)) = none := by decide +kernel
      cases nothing.symm.trans found
    · intro entry member
      cases List.mem_singleton.1 member
      constructor <;> decide
  have short : (channelName "/tmp/a b" 7 9 0).utf8ByteSize ≤ Limits.channelBytes := by
    decide +kernel
  exact ⟨vacant, short, hands_over vacant short⟩

/-- With a blank in front of the prefix, a name is claimed that is not the name of the channel,
and an intake with this prefix refuses it. -/
theorem loses_blank :
    channelName " p" 4242 4242 0 = " p4242_4242_0"
      ∧ (send {} { target := 4242, channel := " p4242_4242_0" } { pid := 4242 }).1 = .ok ()
      ∧ (AttachFile.scan 4242 (send {} { target := 4242, channel := " p4242_4242_0" }
          { pid := 4242 }).2.2.workdir).channels.toOption = some ["p4242_4242_0"]
      ∧ ((Intake.new { Settings.standard none with channelPrefix := " p" }).markReady.submit
          (Relay.submission "p4242_4242_0")).1 = .error .illegal := by
  decide +kernel

end Summons

end AttachService
