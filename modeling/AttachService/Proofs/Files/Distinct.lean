/-
Module: AttachService.Proofs.Files.Distinct
Purpose: The names of files and channels say whom they are for, whose they are, and which attempt
  they belong to.
Trusted boundary: none
Main exports: Numeral.append_ofNat_inj, channelName_inj, AttachFile.stem_prefix_iff,
  Summons.file_of_send, AttachFile.Distinctive, AttachFile.distinctive
-/
import AttachService.Errand
import AttachService.Proofs.Files.Names

namespace AttachService

/-!
Three numbers stand in such a name, in decimal and of any length, each but the last with an
underscore after it.  No digit is an underscore, so the first number ends where the first
underscore is, whatever comes after; and a process whose number begins like that of another one
does not take the files of that one for its own.
-/

/-! ### Numerals up to a mark -/

namespace Numeral

theorem ofNat_injective {m n : Nat} (same : ofNat m = ofNat n) : m = n := by
  rw [← (digits_ofNat m).value, ← (digits_ofNat n).value, same]

/-- Whoever reads digits up to a mark reads the numeral in front of it. -/
theorem takeWhile_ofNat {mark : Char} (noDigit : mark.isDigit = false) (n : Nat)
    (rest : List Char) :
    ((ofNat n).toList ++ mark :: rest).takeWhile Char.isDigit = (ofNat n).toList := by
  rw [List.takeWhile_append_of_pos fun c => isDigit_of_mem_ofNat,
    List.takeWhile_cons_of_neg (by simp [noDigit]), List.append_nil]

/-- What begins with a numeral and a mark has only one beginning of this kind. -/
theorem append_ofNat_inj {mark : Char} (noDigit : mark.isDigit = false) {m n : Nat}
    {rest other : List Char}
    (same : (ofNat m).toList ++ mark :: rest = (ofNat n).toList ++ mark :: other) :
    m = n ∧ rest = other := by
  have numerals : (ofNat m).toList = (ofNat n).toList := by
    rw [← takeWhile_ofNat noDigit m rest, same, takeWhile_ofNat noDigit]
  rw [numerals] at same
  exact ⟨ofNat_injective (String.toList_inj.1 numerals),
    (List.cons.inj (List.append_cancel_left same)).2⟩

end Numeral

/-! ### Names -/

section Naming

variable {target client counter other : UInt32}

/-- The name of a channel is three numerals with something between them that is in none. -/
theorem toList_channelName (channelPrefix : String) (target client counter : UInt32) :
    (channelName channelPrefix target client counter).toList
      = channelPrefix.toList ++ ((Numeral.ofNat target.toNat).toList
        ++ '_' :: ((Numeral.ofNat client.toNat).toList
          ++ '_' :: (Numeral.ofNat counter.toNat).toList)) := by
  simp [channelName, AttachFile.nonce, String.toList_append]

/-- Whoever knows the prefix can read the numbers off the name of a channel. -/
theorem channelName_inj (channelPrefix : String) {target' client' counter' : UInt32} :
    channelName channelPrefix target client counter
        = channelName channelPrefix target' client' counter'
      ↔ target = target' ∧ client = client' ∧ counter = counter' := by
  constructor
  · intro same
    have lists := congrArg String.toList same
    rw [toList_channelName, toList_channelName] at lists
    obtain ⟨first, rest⟩ := Numeral.append_ofNat_inj (by decide) (List.append_cancel_left lists)
    obtain ⟨second, rest⟩ := Numeral.append_ofNat_inj (by decide) rest
    have third := Numeral.ofNat_injective (String.toList_inj.1 rest)
    exact ⟨UInt32.toNat_inj.1 first, UInt32.toNat_inj.1 second, UInt32.toNat_inj.1 third⟩
  · rintro ⟨rfl, rfl, rfl⟩
    rfl

namespace AttachFile

/-- The name of an attach file is put together like that of a channel. -/
theorem name_eq_channelName (target client attempt : UInt32) :
    name target client attempt = channelName ".attach_pid" target client attempt := by
  simp [name, stem, channelName, String.append_assoc]

/-- The number of a process that begins like that of another one is not followed by the mark. -/
theorem stem_prefix_iff {attempt : UInt32} :
    (stem other).toList <+: (name target client attempt).toList ↔ target = other := by
  constructor
  · rintro ⟨rest, whole⟩
    rw [name_eq_channelName, toList_channelName] at whole
    simp only [stem, String.toList_append, List.append_assoc] at whole
    have numbers := Numeral.append_ofNat_inj (by decide) (List.append_cancel_left whole)
    exact (UInt32.toNat_inj.1 numbers.1).symm
  · rintro rfl
    rw [name, String.toList_append]
    exact List.prefix_append _ _

/-- A target finds the files that mean it, and no others. -/
theorem isFor_name_iff {attempt : UInt32} :
    isFor other (Utf8.encode (name target client attempt)) = true ↔ target = other := by
  rw [isFor_encode, stem_prefix_iff]
  exact and_iff_left (not_isSuffix_name target client attempt)

/-- What is not for a process is left alone by it. -/
theorem claimOne_of_not_isFor {w : Workdir} {entry : Name} (foreign : isFor other entry = false) :
    claimOne other w entry = (none, w, []) := by
  rw [claimOne, foreign]
  rfl

end AttachFile

end Naming

/-! ### What is published -/

/-- What is promoted is at the path it was meant for. -/
theorem OwnedFile.eq_of_promote {mishap : Option Fault} {w after : Workdir} {path : List UInt8}
    {file : OwnedFile} (promoted : promote mishap w path = (.ok file, after)) : file = ⟨path⟩ := by
  unfold promote at promoted
  simp only at promoted
  split at promoted
  · cases promoted
    rfl
  · split at promoted <;> cases promoted

/-- Whoever publishes a file owns what is at its path. -/
theorem OwnedFile.eq_of_publish {mishaps : Mishaps} {w after : Workdir}
    {path contents : List UInt8} {file : OwnedFile}
    (published : publish mishaps w path contents = (.ok file, after)) : file = ⟨path⟩ := by
  unfold publish at published
  split at published
  · cases published
  · split at published
    · cases published
    · split at published
      · cases published
      · simp only at published
        split at published
        · cases published
        · exact eq_of_promote published

namespace Summons

variable {s after : Summons} {m later : Machine}

/-- Signalling does not change what was published. -/
theorem fst_snd_ring (mishap : Option Fault) (s : Summons) (m : Machine) :
    (s.ring mishap m).2.1 = s := by
  unfold ring
  split
  · rfl
  · split <;> rfl

theorem file_of_publish {mishaps : Mishaps} (published : s.publish mishaps m = (.ok after, later)) :
    after.file = some ⟨Utf8.encode (AttachFile.name s.target m.client m.attempts)⟩ := by
  unfold publish at published
  simp only at published
  split at published
  · cases published
  · split at published
    · cases published
    · next made =>
        cases published
        rw [OwnedFile.eq_of_publish made]

/-- The file of a summons is named for its target, for the client and for the attempt. -/
theorem file_of_send {mishaps : SummonsMishaps} {file : OwnedFile} (unpublished : s.file = none)
    (sent : (s.send mishaps m).2.1.file = some file) :
    file = ⟨Utf8.encode (AttachFile.name s.target m.client m.attempts)⟩ := by
  unfold send at sent
  split at sent
  · split at sent
    · rw [unpublished] at sent
      cases sent
    · next published =>
        rw [fst_snd_ring, file_of_publish published] at sent
        exact (Option.some.inj sent).symm
  · next published =>
      rw [unpublished] at published
      cases published

end Summons

/-! ### Telling them apart -/

namespace AttachFile

/-- How the file and the channel of one attempt are told from those of all others. -/
structure Distinctive (target client attempt : UInt32) : Prop where
  /-- Whatever file the client publishes in this attempt has this name. -/
  published : ∀ (mishaps : SummonsMishaps) (channel : String) (m : Machine) (file : OwnedFile),
    m.client = client → m.attempts = attempt →
      (Summons.send mishaps { target := target, channel := channel } m).2.1.file = some file →
        file = ⟨Utf8.encode (name target client attempt)⟩
  found : ∀ other, isFor other (Utf8.encode (name target client attempt)) = true ↔ target = other
  /-- No other process reads or removes it. -/
  spared : ∀ (other : UInt32) (w : Workdir), target ≠ other →
    claimOne other w (Utf8.encode (name target client attempt)) = (none, w, [])
  hidden : ∀ other, isFor other (OwnedFile.draft (Utf8.encode (name target client attempt))) = false
  /-- No process at all reads or removes its draft. -/
  untouched : ∀ (other : UInt32) (w : Workdir),
    claimOne other w (OwnedFile.draft (Utf8.encode (name target client attempt))) = (none, w, [])
  file : ∀ target' client' attempt' : UInt32,
    Utf8.encode (name target client attempt) = Utf8.encode (name target' client' attempt')
      ↔ target = target' ∧ client = client' ∧ attempt = attempt'
  channel : ∀ (channelPrefix : String) (target' client' attempt' : UInt32),
    channelName channelPrefix target client attempt
        = channelName channelPrefix target' client' attempt'
      ↔ target = target' ∧ client = client' ∧ attempt = attempt'

/-- No process takes the file of another one or a draft for its own, and no two attempts have a
file or a channel in common. -/
theorem distinctive (target client attempt : UInt32) : Distinctive target client attempt := by
  have hidden := isFor_draft ⟨target, client, attempt, rfl⟩
  exact {
    published := by
      rintro mishaps channel m file rfl rfl sent
      exact Summons.file_of_send (s := { target := target, channel := channel }) rfl sent
    found := fun other => isFor_name_iff
    spared := by
      intro other w apart
      apply claimOne_of_not_isFor
      rw [← Bool.not_eq_true, isFor_name_iff]
      exact apart
    hidden := hidden
    untouched := fun other w => claimOne_of_not_isFor (hidden other)
    file := by
      intro target' client' attempt'
      rw [← channelName_inj ".attach_pid", ← name_eq_channelName, ← name_eq_channelName]
      exact ⟨Utf8.encode_injective, congrArg Utf8.encode⟩
    channel := fun channelPrefix target' client' attempt' => channelName_inj channelPrefix }

/-- The numbers 4, 42 and 424 begin alike. -/
example : isFor 42 (Utf8.encode (name 424 2 4)) = false
    ∧ isFor 42 (Utf8.encode (name 4 2 424)) = false
    ∧ isFor 42 (Utf8.encode (name 42 4 24)) = true := by
  decide +kernel

end AttachFile

end AttachService
