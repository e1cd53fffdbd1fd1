import UblkAzblob.Construction.VolumeMeta
import Mathlib.Data.List.Nodup

namespace UblkAzblob
open Storage

/-- A value that can stand on a line of the record. -/
def Unbroken (value : List Char) : Prop := '\n' ∉ value ∧ '\r' ∉ value

namespace OverlayDirs

structure Unbroken (dirs : OverlayDirs) : Prop where
  lower : UblkAzblob.Unbroken dirs.lower.toList
  upper : UblkAzblob.Unbroken dirs.upper.toList
  work : UblkAzblob.Unbroken dirs.work.toList
  scratchRoot : ∀ root, dirs.scratchRoot = some root → UblkAzblob.Unbroken root.toList

end OverlayDirs

namespace VolumeMeta

/-- No field has a line break, and the process id is a 32-bit number. -/
structure Unbroken (volume : VolumeMeta) : Prop where
  volumeId : UblkAzblob.Unbroken volume.volumeId.toList
  device : UblkAzblob.Unbroken volume.device.toList
  pid : volume.pid < 2 ^ 32
  overlay : ∀ dirs, volume.overlay = some dirs → dirs.Unbroken

/-- The keys of a record are plain words. -/
def keys : List String :=
  ["volume_id", "device", "pid", "nbd", "overlay", "lower", "upper", "work", "scratch_root"]

theorem rows_spec {volume : VolumeMeta} (unbroken : volume.Unbroken) :
    ∀ row ∈ volume.rows, row.1 ∈ keys ∧ UblkAzblob.Unbroken row.2 := by
  have word (value : String) (plain : '\n' ∉ value.toList ∧ '\r' ∉ value.toList) :
      UblkAzblob.Unbroken value.toList := plain
  have truth : UblkAzblob.Unbroken "true".toList := word _ (by decide)
  have falsity : UblkAzblob.Unbroken "false".toList := word _ (by decide)
  have digits : UblkAzblob.Unbroken (decimal volume.pid) := ⟨not_mem_decimal (by decide), not_mem_decimal (by decide)⟩
  have flag : UblkAzblob.Unbroken (if volume.nbd then "true".toList else "false".toList) := by
    split
    · exact truth
    · exact falsity
  intro row member
  rcases List.mem_append.mp member with fixed | overlaid
  · simp only [List.mem_cons, List.not_mem_nil, or_false] at fixed
    rcases fixed with rfl | rfl | rfl | rfl
    · exact ⟨by simp [keys], unbroken.volumeId⟩
    · exact ⟨by simp [keys], unbroken.device⟩
    · exact ⟨by simp [keys], digits⟩
    · exact ⟨by simp [keys], flag⟩
  · cases overlay : volume.overlay with
    | none =>
        rw [overlay] at overlaid
        obtain rfl := List.mem_singleton.mp overlaid
        exact ⟨by simp [keys], falsity⟩
    | some dirs =>
        have clean := unbroken.overlay dirs overlay
        rw [overlay, overlayRows, List.mem_append] at overlaid
        rcases overlaid with fixed | rooted
        · simp only [List.mem_cons, List.not_mem_nil, or_false] at fixed
          rcases fixed with rfl | rfl | rfl | rfl
          · exact ⟨by simp [keys], truth⟩
          · exact ⟨by simp [keys], clean.lower⟩
          · exact ⟨by simp [keys], clean.upper⟩
          · exact ⟨by simp [keys], clean.work⟩
        · obtain ⟨root, given, rfl⟩ := List.mem_map.mp rooted
          exact ⟨by simp [keys], clean.scratchRoot root (Option.mem_toList.mp given)⟩

theorem key_spec {key : String} (known : key ∈ keys) :
    '\t' ∉ key.toList ∧ '\n' ∉ key.toList ∧ trimBoth FileCacheBackend.isWhitespace key.toList = key.toList := by
  have checked : ∀ key ∈ keys, '\t' ∉ key.toList ∧ '\n' ∉ key.toList ∧
      trimBoth FileCacheBackend.isWhitespace key.toList = key.toList := by decide +kernel
  exact checked key known

theorem parseRow_print {row : String × List Char} (known : row.1 ∈ keys) :
    parseRow (row.1.toList ++ '\t' :: row.2) = some (row.1.toList, row.2) := by
  obtain ⟨plain, _, trimmed⟩ := key_spec known
  rw [parseRow, splitOnce_append _ plain, Option.map_some, trimmed]

/-- The rows of a record are read back. -/
theorem rows_serialize {volume : VolumeMeta} (unbroken : volume.Unbroken) :
    (lines volume.serialize).filterMap parseRow = volume.rows.map fun row => (row.1.toList, row.2) := by
  have spec := rows_spec unbroken
  rw [serialize, lines_terminated]
  · rw [List.filterMap_map, List.filterMap_eq_map_iff_forall_eq_some.mpr]
    intro row member
    exact parseRow_print (spec row member).1
  · intro row member
    obtain ⟨known, clean⟩ := spec row member
    simp [(key_spec known).2.1, clean.1]
  · intro row member ends
    obtain ⟨_, clean⟩ := spec row member
    have last := List.mem_of_getLast? ends
    rw [List.getLast?_append_of_ne_nil _ (by simp)] at ends
    rcases List.mem_cons.mp (List.mem_of_getLast? ends) with tab | inside
    · cases tab
    · exact clean.2 inside

theorem find_rows (rows : List (String × List Char)) (key : String) :
    find (rows.map fun row => (row.1.toList, row.2)) key =
      (rows.reverse.find? fun row => row.1 = key).map Prod.snd := by
  have same : (fun row : List Char × List Char => decide (row.1 = key.toList)) ∘
      (fun row : String × List Char => (row.1.toList, row.2)) = fun row => decide (row.1 = key) := by
    funext row
    simp [String.toList_inj]
  rw [find, ← List.map_reverse, List.find?_map, same, Option.map_map]
  rfl

/-- A record that was written is read back. -/
theorem parse_serialize {volume : VolumeMeta} (unbroken : volume.Unbroken) : parse volume.serialize = some volume := by
  obtain ⟨volumeId, device, pid, nbd, overlay⟩ := volume
  have pidEq : parseUnsigned 4294967296 (decimal pid) = some pid := parseUnsigned_decimal unbroken.pid
  rw [parse, rows_serialize unbroken]
  simp only [find_rows]
  cases overlay with
  | none =>
      cases nbd <;> simp [rows, overlayRows, pidEq]
  | some dirs =>
      obtain ⟨lower, upper, work, scratchRoot⟩ := dirs
      cases scratchRoot with
      | none => cases nbd <;> simp [rows, overlayRows, pidEq]
      | some root => cases nbd <;> simp [rows, overlayRows, pidEq]

end VolumeMeta

/-- The fields of a line of the mount table, with any number of optional tags. -/
structure MountLine where
  id : List Char
  parent : List Char
  majorMinor : List Char
  root : List Char
  mountpoint : List Char
  options : List Char
  tags : List (List Char)
  fstype : List Char
  source : List Char
  superOpts : List Char

namespace MountLine

def leading (line : MountLine) : List (List Char) :=
  [line.id, line.parent, line.majorMinor, line.root, line.mountpoint, line.options] ++ line.tags

def tokens (line : MountLine) : List (List Char) :=
  line.leading ++ [['-'], line.fstype, line.source, line.superOpts]

/-- The kernel prints the fields with single spaces between them. -/
def print (line : MountLine) : List Char := [' '].intercalate line.tokens

/-- White space is escaped inside a field, and only the separator is a lone hyphen. -/
structure WellFormed (line : MountLine) : Prop where
  plain : ∀ token ∈ line.tokens, token ≠ [] ∧ ∀ char ∈ token, FileCacheBackend.isWhitespace char = false
  unhyphened : ∀ token ∈ line.leading, token ≠ ['-']
  absolute : line.mountpoint.head? = some '/'

def entry (line : MountLine) : MountEntry :=
  ⟨String.ofList line.mountpoint, String.ofList line.fstype, String.ofList line.source, String.ofList line.superOpts⟩

theorem parseMountLine_print {line : MountLine} (formed : line.WellFormed) :
    parseMountLine line.print = some line.entry := by
  have toks : words FileCacheBackend.isWhitespace line.print = line.tokens :=
    words_intercalate (by decide) formed.plain
  have position : line.tokens.findIdx? (· = ['-']) = some line.leading.length := by
    rw [tokens, List.findIdx?_append]
    have absent : line.leading.findIdx? (· = ['-']) = none := by
      rw [List.findIdx?_eq_none_iff]
      intro token member
      simpa using formed.unhyphened token member
    simp [absent, List.findIdx?_cons]
  have size : line.tokens.length = line.leading.length + 4 := by simp [tokens]
  have early : 6 ≤ line.leading.length := by simp [leading]
  have after (offset : Nat) : line.tokens.getD (line.leading.length + offset) [] =
      [['-'], line.fstype, line.source, line.superOpts].getD offset [] := by
    rw [tokens, List.getD_eq_getElem?_getD, List.getElem?_append_right (by omega), Nat.add_sub_cancel_left,
      ← List.getD_eq_getElem?_getD]
  simp only [parseMountLine, toks, position]
  rw [if_neg (by omega), after 1, after 2, after 3]
  rfl

end MountLine

/-- A volume that is published at its target. -/
structure PublishedVolume where
  target : String
  record : VolumeMeta

namespace PublishedVolume

/-- What a publish guarantees about its record. -/
structure WellFormed (volume : PublishedVolume) : Prop where
  unbroken : volume.record.Unbroken
  device : "/dev/nbd".toList <+: volume.record.device.toList ∨ "/dev/ublkb".toList <+: volume.record.device.toList
  overlay : ∀ dirs, volume.record.overlay = some dirs →
    ∃ scratchBase, dirs = overlayDirs volume.target scratchBase volume.record.volumeId
  /-- The target is not named as the lower of an overlay. -/
  named : ¬ '/' :: overlayLowerName.toList <:+ volume.target.toList

/-- The device is mounted at the target, or at the lower of the overlay. -/
def DeviceMount (volume : PublishedVolume) (line : MountLine) : Prop :=
  line.WellFormed ∧ line.source = volume.record.device.toList ∧ match volume.record.overlay with
    | none => line.mountpoint = volume.target.toList
    | some dirs => line.mountpoint = dirs.lower.toList

/-- The overlay is mounted at the target. -/
def MergedMount (volume : PublishedVolume) (line : MountLine) : Prop :=
  line.WellFormed ∧ line.mountpoint = volume.target.toList ∧ line.fstype = "overlay".toList ∧
    line.source = "overlay".toList ∧
    ∃ dirs, volume.record.overlay = some dirs ∧ dirs.lower.toList <:+: line.superOpts

def MountOf (volume : PublishedVolume) (line : MountLine) : Prop :=
  volume.DeviceMount line ∨ volume.MergedMount line

end PublishedVolume

/-- Each publish has written its record. -/
def writeRecords (files : TextFiles) (volumes : List PublishedVolume) : TextFiles :=
  volumes.foldl (fun files volume => writeVolumeMeta files volume.target volume.record) files

/-- A mount table lists the mounts of every volume among foreign mounts that have no record beside them. -/
structure Listing (files : TextFiles) (volumes : List PublishedVolume) (table : List (List Char)) : Prop where
  unbroken : ∀ line ∈ table, '\n' ∉ line ∧ line.getLast? ≠ some '\r'
  device : ∀ volume ∈ volumes, ∃ line, volume.DeviceMount line ∧ line.print ∈ table
  merged : ∀ volume ∈ volumes, volume.record.overlay.isSome → ∃ line, volume.MergedMount line ∧ line.print ∈ table
  foreign : ∀ text ∈ table, (∃ volume ∈ volumes, ∃ line, volume.MountOf line ∧ text = line.print) ∨
    ∀ entry, parseMountLine text = some entry → files (metaPath entry.mountpoint) = none

def mountTable (table : List (List Char)) : List Char := table.flatMap fun line => line ++ ['\n']

section Sidecars

theorem siblingPath_inj {first second name other : String} (plain : '/' ∉ name.toList) (plainOther : '/' ∉ other.toList)
    (same : siblingPath first name = siblingPath second other) :
    parentOf first.toList = parentOf second.toList ∧ name = other := by
  have joined := joinPath_inj plain plainOther parentOf_slash parentOf_slash (String.ofList_inj.mp same)
  exact ⟨joined.1, String.toList_inj.mp joined.2⟩

/-- A record beside another target stays where it is. -/
theorem writeVolumeMeta_other {files : TextFiles} {target other : String} (record : VolumeMeta)
    (apart : parentOf target.toList ≠ parentOf other.toList) :
    writeVolumeMeta files target record (metaPath other) = files (metaPath other) := by
  have elsewhere : metaPath other ≠ metaPath target := by
    intro same
    exact apart (siblingPath_inj (by decide) (by decide) same).1.symm
  have temporary : metaPath other ≠ metaTmpPath target := by
    intro same
    exact apart (siblingPath_inj (by decide) (by decide) same).1.symm
  rw [writeVolumeMeta, Function.update_of_ne elsewhere, Function.update_of_ne temporary]

def ApartTargets (first second : PublishedVolume) : Prop :=
  parentOf first.target.toList ≠ parentOf second.target.toList

theorem writeRecords_other {files : TextFiles} {volumes : List PublishedVolume} {target : String}
    (apart : ∀ volume ∈ volumes, parentOf volume.target.toList ≠ parentOf target.toList) :
    writeRecords files volumes (metaPath target) = files (metaPath target) := by
  induction volumes generalizing files with
  | nil => rfl
  | cons volume rest ih =>
      rw [List.forall_mem_cons] at apart
      rw [writeRecords, List.foldl_cons, ← writeRecords, ih apart.2, writeVolumeMeta_other _ apart.1]

/-- Every volume finds its own record. -/
theorem writeRecords_self {files : TextFiles} {volumes : List PublishedVolume}
    (apart : volumes.Pairwise ApartTargets) {volume : PublishedVolume} (member : volume ∈ volumes) :
    writeRecords files volumes (metaPath volume.target) = some volume.record.serialize := by
  induction volumes generalizing files with
  | nil => cases member
  | cons first rest ih =>
      rw [List.pairwise_cons] at apart
      rw [writeRecords, List.foldl_cons, ← writeRecords]
      rcases List.mem_cons.mp member with rfl | later
      · rw [writeRecords_other fun other inside => Ne.symm (apart.1 other inside), writeVolumeMeta,
          Function.update_self]
      · exact ih apart.2 later

theorem readVolumeMeta_self {files : TextFiles} {volumes : List PublishedVolume}
    (apart : volumes.Pairwise ApartTargets) {volume : PublishedVolume} (member : volume ∈ volumes)
    (formed : volume.WellFormed) :
    readVolumeMeta (writeRecords files volumes) volume.target = some volume.record := by
  rw [readVolumeMeta, writeRecords_self apart member, Option.bind_some, VolumeMeta.parse_serialize formed.unbroken]

end Sidecars

section Targets

variable {volume : PublishedVolume} {line : MountLine}

theorem isOurTarget_of_suffix {entry : MountEntry}
    (lower : '/' :: overlayLowerName.toList <:+ entry.mountpoint.toList) : isOurTarget entry = false :=
  if_pos lower

theorem isOurTarget_of_named {entry : MountEntry}
    (named : ¬ '/' :: overlayLowerName.toList <:+ entry.mountpoint.toList)
    (ours : (entry.fstype = "overlay" ∧ '/' :: overlayLowerName.toList <:+: entry.superOpts.toList) ∨
      ("/dev/nbd".toList <+: entry.source.toList ∨ "/dev/ublkb".toList <+: entry.source.toList)) :
    isOurTarget entry = true := by
  rw [isOurTarget, if_neg named]
  exact decide_eq_true ours

theorem overlayDirs_lower (target : String) (scratchBase : Option String) (volumeId : String) :
    (overlayDirs target scratchBase volumeId).lower = siblingPath target overlayLowerName := by
  cases scratchBase <;> rfl

/-- The lower of an overlay is named as such. -/
theorem PublishedVolume.WellFormed.lower_suffix (formed : volume.WellFormed)
    (absolute : volume.target.toList.head? = some '/') {dirs : OverlayDirs}
    (overlay : volume.record.overlay = some dirs) : '/' :: overlayLowerName.toList <:+ dirs.lower.toList := by
  obtain ⟨scratchBase, rfl⟩ := formed.overlay dirs overlay
  rw [overlayDirs_lower, siblingPath, String.toList_ofList]
  exact joinPath_suffix _ (parentOf_ne_nil absolute)

/-- A mount of a volume is a target of ours exactly when it is at the target of the volume. -/
theorem PublishedVolume.MountOf.isOurTarget_iff (formed : volume.WellFormed) (mounts : volume.MountOf line)
    (absolute : volume.target.toList.head? = some '/') :
    isOurTarget line.entry = true ↔ line.mountpoint = volume.target.toList := by
  have named (at_ : line.mountpoint = volume.target.toList) :
      ¬ '/' :: overlayLowerName.toList <:+ line.entry.mountpoint.toList := by
    rw [MountLine.entry, String.toList_ofList, at_]
    exact formed.named
  rcases mounts with ⟨_, source, place⟩ | ⟨_, at_, fstype, _, dirs, overlay, opts⟩
  · cases overlay : volume.record.overlay with
    | none =>
        rw [overlay] at place
        refine iff_of_true (isOurTarget_of_named (named place) (.inr ?_)) place
        simpa only [MountLine.entry, String.toList_ofList, source] using formed.device
    | some dirs =>
        rw [overlay] at place
        have suffix := formed.lower_suffix absolute overlay
        rw [← place] at suffix
        have skipped : isOurTarget line.entry = false := by
          apply isOurTarget_of_suffix
          rwa [MountLine.entry, String.toList_ofList]
        refine iff_of_false (by simp [skipped]) fun at_ => ?_
        rw [at_] at suffix
        exact formed.named suffix
  · refine iff_of_true (isOurTarget_of_named (named at_) (.inl ⟨?_, ?_⟩)) at_
    · rw [MountLine.entry, fstype, String.ofList_toList]
    · rw [MountLine.entry, String.toList_ofList]
      exact (formed.lower_suffix absolute overlay).isInfix.trans opts

end Targets

section Readoption

variable {files : TextFiles} {volumes : List PublishedVolume} {table : List (List Char)}

theorem Listing.absolute (listed : Listing files volumes table) {volume : PublishedVolume} (member : volume ∈ volumes) :
    volume.target.toList.head? = some '/' := by
  cases overlay : volume.record.overlay with
  | none =>
      obtain ⟨line, ⟨formed, _, place⟩, _⟩ := listed.device volume member
      rw [overlay] at place
      rw [← place]
      exact formed.absolute
  | some dirs =>
      obtain ⟨line, ⟨formed, at_, _⟩, _⟩ := listed.merged volume member (by simp [overlay])
      rw [← at_]
      exact formed.absolute

theorem parseMountinfo_table (listed : Listing files volumes table) :
    parseMountinfo (mountTable table) = table.filterMap parseMountLine := by
  have read : lines (table.flatMap fun line => line ++ ['\n']) = table.map id :=
    lines_terminated table id (fun line member => (listed.unbroken line member).1)
      fun line member => (listed.unbroken line member).2
  rw [parseMountinfo, mountTable, read, List.map_id]

/-- The target of every volume is found. -/
theorem Listing.finds (listed : Listing files volumes table) (formed : ∀ volume ∈ volumes, volume.WellFormed)
    {volume : PublishedVolume} (member : volume ∈ volumes) :
    volume.target ∈ ourTargetMounts (parseMountinfo (mountTable table)) := by
  have shown : ∃ line, volume.MountOf line ∧ line.WellFormed ∧ line.mountpoint = volume.target.toList ∧
      line.print ∈ table := by
    cases overlay : volume.record.overlay with
    | none =>
        obtain ⟨line, mounts, inside⟩ := listed.device volume member
        have place := mounts.2.2
        rw [overlay] at place
        exact ⟨line, .inl mounts, mounts.1, place, inside⟩
    | some dirs =>
        obtain ⟨line, mounts, inside⟩ := listed.merged volume member (by simp [overlay])
        exact ⟨line, .inr mounts, mounts.1, mounts.2.1, inside⟩
  obtain ⟨line, mounts, wellFormed, place, inside⟩ := shown
  rw [parseMountinfo_table listed, ourTargetMounts, List.mem_map]
  refine ⟨line.entry, List.mem_filter.mpr ⟨?_, ?_⟩, ?_⟩
  · exact List.mem_filterMap.mpr ⟨line.print, inside, MountLine.parseMountLine_print wellFormed⟩
  · exact (mounts.isOurTarget_iff (formed volume member) (listed.absolute member)).mpr place
  · rw [MountLine.entry, place, String.ofList_toList]

/-- A target that is found belongs to a volume or has no record. -/
theorem Listing.found (listed : Listing files volumes table) (formed : ∀ volume ∈ volumes, volume.WellFormed)
    {target : String} (member : target ∈ ourTargetMounts (parseMountinfo (mountTable table))) :
    (∃ volume ∈ volumes, target = volume.target) ∨ files (metaPath target) = none := by
  rw [parseMountinfo_table listed, ourTargetMounts, List.mem_map] at member
  obtain ⟨entry, chosen, rfl⟩ := member
  obtain ⟨inside, ours⟩ := List.mem_filter.mp chosen
  obtain ⟨text, textAt, parsed⟩ := List.mem_filterMap.mp inside
  rcases listed.foreign text textAt with ⟨volume, known, line, mounts, rfl⟩ | foreign
  · have wellFormed : line.WellFormed := by
      rcases mounts with device | merged
      · exact device.1
      · exact merged.1
    rw [MountLine.parseMountLine_print wellFormed] at parsed
    obtain rfl := Option.some.inj parsed
    have place := (mounts.isOurTarget_iff (formed volume known) (listed.absolute known)).mp ours
    refine .inl ⟨volume, known, ?_⟩
    rw [MountLine.entry, place, String.ofList_toList]
  · exact .inr (foreign entry parsed)

/-- The table holds the volumes whose targets were seen, and no others. -/
structure Readopted (volumes : List PublishedVolume) (seen : List String) (table : VolumeTable) : Prop where
  adopted : ∀ volume ∈ volumes, volume.target ∈ seen →
    table volume.record.volumeId = some (volume.record.readopted volume.target)
  known : ∀ id, (table id).isSome → ∃ volume ∈ volumes, volume.target ∈ seen ∧ volume.record.volumeId = id

/-- One more target keeps the table exact. -/
theorem Readopted.step {seen : List String} {state : VolumeTable × Nat} (exact_ : Readopted volumes seen state.1)
    (distinct : (volumes.map fun volume => volume.record.volumeId).Nodup)
    (recorded : ∀ volume ∈ volumes, readVolumeMeta files volume.target = some volume.record) {target : String}
    (found : (∃ volume ∈ volumes, target = volume.target) ∨ readVolumeMeta files target = none) :
    Readopted volumes (seen ++ [target]) (readoptTarget files state target).1 := by
  have unique {first second : PublishedVolume} (firstIn : first ∈ volumes) (secondIn : second ∈ volumes)
      (same : first.record.volumeId = second.record.volumeId) : first = second :=
    List.inj_on_of_nodup_map distinct firstIn secondIn same
  have more {id : String} (earlier : ∃ volume ∈ volumes, volume.target ∈ seen ∧ volume.record.volumeId = id) :
      ∃ volume ∈ volumes, volume.target ∈ seen ++ [target] ∧ volume.record.volumeId = id := by
    obtain ⟨volume, member, old, named⟩ := earlier
    exact ⟨volume, member, List.mem_append_left _ old, named⟩
  rcases found with ⟨volume, member, rfl⟩ | missing
  · have same {other : PublishedVolume} (otherIn : other ∈ volumes) (at_ : other.target = volume.target) :
        other = volume := by
      have records := (recorded other otherIn).symm.trans (at_ ▸ recorded volume member)
      exact unique otherIn member (congrArg VolumeMeta.volumeId (Option.some.inj records))
    rw [readoptTarget, recorded volume member]
    dsimp only
    split
    · rename_i present
      obtain ⟨earlier, earlierIn, old, named⟩ := exact_.known _ present
      obtain rfl := unique earlierIn member named
      refine ⟨fun other otherIn at_ => ?_, fun id some_ => more (exact_.known id some_)⟩
      rcases List.mem_append.mp at_ with before | now
      · exact exact_.adopted other otherIn before
      · obtain rfl := same otherIn (List.mem_singleton.mp now)
        exact exact_.adopted other otherIn old
    · refine ⟨fun other otherIn at_ => ?_, fun id some_ => ?_⟩
      · by_cases equal : other.record.volumeId = volume.record.volumeId
        · obtain rfl := unique otherIn member equal
          exact Function.update_self _ _ _
        · rcases List.mem_append.mp at_ with before | now
          · exact (Function.update_of_ne equal _ _).trans (exact_.adopted other otherIn before)
          · obtain rfl := same otherIn (List.mem_singleton.mp now)
            exact absurd rfl equal
      · by_cases equal : id = volume.record.volumeId
        · exact ⟨volume, member, by simp, equal.symm⟩
        · have kept : (state.1 id).isSome := by
            rwa [← Function.update_of_ne equal (some (volume.record.readopted volume.target)) state.1]
          exact more (exact_.known id kept)
  · rw [readoptTarget, missing]
    refine ⟨fun other otherIn at_ => ?_, fun id some_ => more (exact_.known id some_)⟩
    rcases List.mem_append.mp at_ with before | now
    · exact exact_.adopted other otherIn before
    · obtain rfl := List.mem_singleton.mp now
      cases (recorded other otherIn).symm.trans missing

theorem Readopted.fold {targets seen : List String} {state : VolumeTable × Nat}
    (exact_ : Readopted volumes seen state.1)
    (distinct : (volumes.map fun volume => volume.record.volumeId).Nodup)
    (recorded : ∀ volume ∈ volumes, readVolumeMeta files volume.target = some volume.record)
    (found : ∀ target ∈ targets, (∃ volume ∈ volumes, target = volume.target) ∨ readVolumeMeta files target = none) :
    Readopted volumes (seen ++ targets) (targets.foldl (readoptTarget files) state).1 := by
  induction targets generalizing seen state with
  | nil => simpa using exact_
  | cons target rest ih =>
      rw [List.forall_mem_cons] at found
      have next := ih (exact_.step distinct recorded found.1) found.2
      rwa [List.append_assoc, List.singleton_append] at next

/-- Targets whose volumes are in the table add nothing. -/
theorem readopt_again {targets : List String} {state : VolumeTable × Nat}
    (known : ∀ target ∈ targets, ∀ volume, readVolumeMeta files target = some volume →
      (state.1 volume.volumeId).isSome) : targets.foldl (readoptTarget files) state = state := by
  induction targets with
  | nil => rfl
  | cons target rest ih =>
      rw [List.forall_mem_cons] at known
      have still : readoptTarget files state target = state := by
        rw [readoptTarget]
        split
        · rfl
        · rename_i volume read
          rw [if_pos (known.1 volume read)]
      rw [List.foldl_cons, still, ih known.2]

/-- A restart rebuilds the table of the published volumes from the mount table and their records, and a second
    recovery adds nothing. -/
theorem readopt_rebuilds_table (base : TextFiles) (volumes : List PublishedVolume) (table : List (List Char))
    (formed : ∀ volume ∈ volumes, volume.WellFormed)
    (distinct : (volumes.map fun volume => volume.record.volumeId).Nodup)
    (apart : volumes.Pairwise ApartTargets) (listed : Listing (writeRecords base volumes) volumes table) :
    let files := writeRecords base volumes
    let targets := ourTargetMounts (parseMountinfo (mountTable table))
    let rebuilt := (readoptTargets files (fun _ => none) targets).1
    (∀ volume ∈ volumes, rebuilt volume.record.volumeId = some
        ⟨false, volume.record.pid, volume.record.device, volume.target, volume.record.overlay⟩) ∧
      (∀ id, (rebuilt id).isSome → ∃ volume ∈ volumes, volume.record.volumeId = id) ∧
      readoptTargets files rebuilt targets = (rebuilt, 0) := by
  intro files targets rebuilt
  have recorded (volume : PublishedVolume) (member : volume ∈ volumes) :
      readVolumeMeta files volume.target = some volume.record :=
    readVolumeMeta_self apart member (formed volume member)
  have found (target : String) (member : target ∈ targets) :
      (∃ volume ∈ volumes, target = volume.target) ∨ readVolumeMeta files target = none := by
    rcases listed.found formed member with ours | absent
    · exact .inl ours
    · right
      change (writeRecords base volumes (metaPath target)).bind VolumeMeta.parse = none
      rw [absent, Option.bind_none]
  have empty : Readopted volumes [] (fun _ => none : VolumeTable) :=
    ⟨fun _ _ seen => (by cases seen), fun _ some_ => (by cases some_)⟩
  have rebuilds : Readopted volumes ([] ++ targets) rebuilt :=
    @Readopted.fold files volumes targets [] (fun _ => none, 0) empty distinct recorded found
  have adopted (volume : PublishedVolume) (member : volume ∈ volumes) :
      rebuilt volume.record.volumeId = some (volume.record.readopted volume.target) :=
    rebuilds.adopted volume member (listed.finds formed member)
  refine ⟨adopted, fun id some_ => ?_, ?_⟩
  · obtain ⟨volume, member, _, named⟩ := rebuilds.known id some_
    exact ⟨volume, member, named⟩
  · apply readopt_again
    intro target member volume read
    rcases found target member with ⟨owner, ownerIn, rfl⟩ | missing
    · obtain rfl := Option.some.inj ((recorded owner ownerIn).symm.trans read)
      simp [adopted owner ownerIn]
    · cases missing.symm.trans read

/-- A line of the mount table with the usual leading fields. -/
def mountLine (mountpoint fstype source superOpts : String) : MountLine :=
  ⟨"36".toList, "35".toList, "98:0".toList, "/".toList, mountpoint.toList, "rw".toList, ["shared:1".toList],
    fstype.toList, source.toList, superOpts.toList⟩

theorem mountLine_wellFormed {line : MountLine}
    (checked : (line.tokens.all fun token =>
        token ≠ [] && token.all fun char => !FileCacheBackend.isWhitespace char) = true ∧
      (∀ token ∈ line.leading, token ≠ ['-']) ∧ line.mountpoint.head? = some '/') : line.WellFormed := by
  refine ⟨fun token member => ?_, checked.2.1, checked.2.2⟩
  have plain := List.all_eq_true.mp checked.1 token member
  simpa using plain

/-- A plain volume is published at a target that has the name of a lower. -/
def hiddenVolume : PublishedVolume := ⟨"/pods/a/.ublk-overlay-lower", ⟨"vol-a", "/dev/ublkb0", 41, false, none⟩⟩

/-- The mount of such a volume is taken for a lower, and the volume is not re-adopted. -/
theorem lower_named_target_not_readopted :
    hiddenVolume.record.Unbroken ∧ "/dev/ublkb".toList <+: hiddenVolume.record.device.toList ∧
      hiddenVolume.DeviceMount (mountLine hiddenVolume.target "ext4" "/dev/ublkb0" "rw") ∧
      (readoptTargets (writeRecords (fun _ => none) [hiddenVolume]) (fun _ => none) (ourTargetMounts (parseMountinfo
        (mountTable [(mountLine hiddenVolume.target "ext4" "/dev/ublkb0" "rw").print])))).1 "vol-a" = none := by
  refine ⟨⟨⟨by decide, by decide⟩, ⟨by decide, by decide⟩, by decide, fun _ overlay => (by cases overlay)⟩, by decide,
    ⟨mountLine_wellFormed ?_, rfl, rfl⟩, ?_⟩
  · decide +kernel
  · decide +kernel

def plainVolume : PublishedVolume := ⟨"/pods/a/mount", ⟨"vol-a", "/dev/ublkb0", 41, false, none⟩⟩

def overlaidVolume : PublishedVolume :=
  ⟨"/pods/b/mount", ⟨"vol-b", "/dev/nbd3", 42, true, some (overlayDirs "/pods/b/mount" none "vol-b")⟩⟩

def plainMount : MountLine := mountLine "/pods/a/mount" "ext4" "/dev/ublkb0" "rw"

def lowerMount : MountLine := mountLine "/pods/b/.ublk-overlay-lower" "ext4" "/dev/nbd3" "ro"

def mergedMount : MountLine :=
  mountLine "/pods/b/mount" "overlay" "overlay" "rw,lowerdir=/pods/b/.ublk-overlay-lower,upperdir=/u,workdir=/w"

def foreignMount : MountLine := mountLine "/boot" "vfat" "/dev/sda1" "rw"

def restartTable : List (List Char) :=
  [foreignMount.print, mergedMount.print, plainMount.print, lowerMount.print]

theorem plainVolume_wellFormed : plainVolume.WellFormed where
  unbroken := ⟨⟨by decide, by decide⟩, ⟨by decide, by decide⟩, by decide, fun _ overlay => by cases overlay⟩
  device := by decide
  overlay _ overlay := by cases overlay
  named := by decide

theorem overlaidVolume_wellFormed : overlaidVolume.WellFormed where
  unbroken := by
    refine ⟨⟨by decide, by decide⟩, ⟨by decide, by decide⟩, by decide, ?_⟩
    intro dirs overlay
    obtain rfl := Option.some.inj overlay
    exact ⟨⟨by decide +kernel, by decide +kernel⟩, ⟨by decide +kernel, by decide +kernel⟩,
      ⟨by decide +kernel, by decide +kernel⟩, fun root rooted => by cases rooted⟩
  device := by decide
  overlay dirs overlay := ⟨none, (Option.some.inj overlay).symm⟩
  named := by decide

/-- The mounts of the two volumes and one foreign mount. -/
theorem restartTable_listing :
    Listing (writeRecords (fun _ => none) [plainVolume, overlaidVolume]) [plainVolume, overlaidVolume]
      restartTable := by
  have plain : plainVolume.DeviceMount plainMount := ⟨mountLine_wellFormed (by decide +kernel), rfl, rfl⟩
  have place : lowerMount.mountpoint = (overlayDirs "/pods/b/mount" none "vol-b").lower.toList := by decide +kernel
  have lower : overlaidVolume.DeviceMount lowerMount := ⟨mountLine_wellFormed (by decide +kernel), rfl, place⟩
  have merged : overlaidVolume.MergedMount mergedMount :=
    ⟨mountLine_wellFormed (by decide +kernel), rfl, rfl, rfl, _, rfl, by decide +kernel⟩
  refine ⟨by decide +kernel, ?_, ?_, ?_⟩
  · intro volume member
    simp only [List.mem_cons, List.not_mem_nil, or_false] at member
    rcases member with rfl | rfl
    · exact ⟨plainMount, plain, by simp [restartTable]⟩
    · exact ⟨lowerMount, lower, by simp [restartTable]⟩
  · intro volume member overlaid
    simp only [List.mem_cons, List.not_mem_nil, or_false] at member
    rcases member with rfl | rfl
    · cases overlaid
    · exact ⟨mergedMount, merged, by simp [restartTable]⟩
  · intro text member
    simp only [restartTable, List.mem_cons, List.not_mem_nil, or_false] at member
    rcases member with rfl | rfl | rfl | rfl
    · right
      intro entry parsed
      have formed : foreignMount.WellFormed := mountLine_wellFormed (by decide +kernel)
      obtain rfl := Option.some.inj ((MountLine.parseMountLine_print formed).symm.trans parsed)
      decide +kernel
    · exact .inl ⟨overlaidVolume, by simp, mergedMount, .inr merged, rfl⟩
    · exact .inl ⟨plainVolume, by simp, plainMount, .inl plain, rfl⟩
    · exact .inl ⟨overlaidVolume, by simp, lowerMount, .inl lower, rfl⟩

theorem readopt_rebuilds_table_two_volumes :
    let files := writeRecords (fun _ => none) [plainVolume, overlaidVolume]
    let rebuilt := (readoptTargets files (fun _ => none) (ourTargetMounts (parseMountinfo (mountTable restartTable)))).1
    ∀ volume ∈ [plainVolume, overlaidVolume], rebuilt volume.record.volumeId = some
      ⟨false, volume.record.pid, volume.record.device, volume.target, volume.record.overlay⟩ := by
  have formed : ∀ volume ∈ [plainVolume, overlaidVolume], volume.WellFormed := by
    intro volume member
    simp only [List.mem_cons, List.not_mem_nil, or_false] at member
    rcases member with rfl | rfl
    · exact plainVolume_wellFormed
    · exact overlaidVolume_wellFormed
  have apart : [plainVolume, overlaidVolume].Pairwise ApartTargets := by
    rw [List.pairwise_pair]
    unfold ApartTargets
    decide +kernel
  exact (readopt_rebuilds_table (fun _ => none) [plainVolume, overlaidVolume] restartTable formed (by decide) apart
    restartTable_listing).1

end Readoption

end UblkAzblob
