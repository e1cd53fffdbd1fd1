import UblkAzblob.Construction.BlobService
import UblkAzblob.Proof.Controller

namespace UblkAzblob
open Storage

section VolumeId

/-- A marker without the separator starts the whole text exactly when it starts the first part. -/
theorem prefix_before_separator {separator : Char} {marker : List Char} (plain : separator ∉ marker)
    (first rest : List Char) : marker <+: first ++ separator :: rest ↔ marker <+: first := by
  constructor
  · intro starts
    have front : first ++ [separator] <+: first ++ separator :: rest := ⟨rest, by simp⟩
    rcases List.prefix_or_prefix_of_prefix starts front with short | long
    · rcases List.prefix_concat_iff.mp short with whole | inside
      · exact absurd (by simp [whole]) plain
      · exact inside
    · exact absurd (long.subset (by simp)) plain
  · intro starts
    exact starts.trans ⟨_, rfl⟩

theorem splitN_three {separator : Char} {first second : List Char} (third : List Char) (plain : separator ∉ first)
    (plainSecond : separator ∉ second) :
    splitN separator 3 (first ++ separator :: (second ++ separator :: third)) = [first, second, third] := by
  simp only [splitN, splitOnce_append _ plain, splitOnce_append _ plainSecond]

/-- Three parts with the separator between them are the text. -/
theorem splitN_sound {separator : Char} {text : List Char}
    (filled : ((splitN separator 3 text).getD 2 []) ≠ []) :
    text = (splitN separator 3 text).getD 0 [] ++
      separator :: ((splitN separator 3 text).getD 1 [] ++ separator :: (splitN separator 3 text).getD 2 []) := by
  cases outer : splitOnce separator text with
  | none => simp [splitN, outer] at filled
  | some parts =>
      obtain ⟨first, rest⟩ := parts
      cases inner : splitOnce separator rest with
      | none => simp [splitN, outer, inner] at filled
      | some more =>
          obtain ⟨second, third⟩ := more
          have cut : splitN separator 3 text = [first, second, third] := by simp [splitN, outer, inner]
          rw [cut, (splitOnce_sound outer).1, (splitOnce_sound inner).1]
          rfl

/-- The names of a blob that an id can carry. -/
structure VolumeName where
  account : String
  container : String
  blob : String
  accountFilled : account ≠ ""
  accountPlain : '/' ∉ account.toList
  accountUnmarked : ¬ roVolumeIdPrefix.toList <+: account.toList
  containerFilled : container ≠ ""
  containerPlain : '/' ∉ container.toList
  blobFilled : blob ≠ ""

namespace VolumeName

theorem parts (name : VolumeName) :
    splitN '/' 3 (name.account.toList ++ '/' :: (name.container.toList ++ '/' :: name.blob.toList)) =
      [name.account.toList, name.container.toList, name.blob.toList] :=
  splitN_three _ name.accountPlain name.containerPlain

theorem filled (name : VolumeName) :
    ¬ (name.account.toList = [] ∨ name.container.toList = [] ∨ name.blob.toList = []) := by
  simpa using ⟨name.accountFilled, name.containerFilled, name.blobFilled⟩

/-- The id of a volume with a blob of its own is read back. -/
theorem parse_id (name : VolumeName) :
    parseVolumeId (makeVolumeId name.account name.container name.blob) =
      .ok (false, name.account, name.container, name.blob) := by
  have unmarked : ¬ roVolumeIdPrefix.toList <+:
      name.account.toList ++ '/' :: (name.container.toList ++ '/' :: name.blob.toList) :=
    fun starts => name.accountUnmarked ((prefix_before_separator (by decide) _ _).mp starts)
  simp only [parseVolumeId, makeVolumeId_toList, unmarked, decide_false, Bool.false_eq_true, if_false, parts,
    List.getD_cons_zero, List.getD_cons_succ, name.filled, String.ofList_toList]

end VolumeName

/-- An id that is read has the three parts after its mark. -/
theorem parseVolumeId_ok {volumeId : String} {readOnly : Bool} {account container blob : String}
    (read : parseVolumeId volumeId = .ok (readOnly, account, container, blob)) :
    readOnly = decide (roVolumeIdPrefix.toList <+: volumeId.toList) ∧
      (if readOnly then volumeId.toList.drop roVolumeIdPrefix.length else volumeId.toList) =
        account.toList ++ '/' :: (container.toList ++ '/' :: blob.toList) := by
  unfold parseVolumeId at read
  extract_lets marked rest parts first second third at read
  by_cases empty : first = [] ∨ second = [] ∨ third = []
  · rw [if_pos empty] at read
    cases read
  · rw [if_neg empty] at read
    rw [not_or, not_or] at empty
    have whole := splitN_sound empty.2.2
    simp only [Except.ok.injEq, Prod.mk.injEq] at read
    obtain ⟨rfl, rfl, rfl, rfl⟩ := read
    simp only [String.toList_ofList]
    exact ⟨rfl, whole⟩

/-- A text with the mark is never read as a volume with a blob of its own. -/
theorem parseVolumeId_marked {account container blob : String} {readOnly : Bool} {first second third : String}
    (read : parseVolumeId (makeVolumeIdRo account container blob) = .ok (readOnly, first, second, third)) :
    readOnly = true := by
  rw [(parseVolumeId_ok read).1, makeVolumeIdRo_toList]
  exact decide_eq_true (List.prefix_append _ _)

end VolumeId

section Delete

variable (client : ClientLib) (answer : BlobAddress → Except ServiceError Unit) (config : DriverConfig)

theorem buildBackend_address {client : ClientLib} {config : DriverConfig} {account container blob : String}
    {secrets : Params} {backend : BlobAddress × AuthConfig}
    (built : buildBackend client config account container blob secrets = .ok backend) :
    backend.1 = ⟨accountEndpoint config account, container, blob⟩ := by
  obtain ⟨auth, _, rest⟩ := except_bind built
  obtain ⟨_, _, made⟩ := except_bind rest
  obtain rfl := Except.ok.inj made
  rfl

end Delete
end UblkAzblob
