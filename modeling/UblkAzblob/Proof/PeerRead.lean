import UblkAzblob.Construction.PeerDir
import Mathlib.Data.List.Nodup

namespace UblkAzblob
open Storage

variable {images : String → PageBlob} {dir next : PeerDir} {cache : PeerCache}

section Invariant

/-- The pages that a cache holds or has fetched repeat its blob. -/
structure PeerCache.Sound (images : String → PageBlob) (cache : PeerCache) : Prop where
  positive : 0 < cache.index.pageSize
  filled : ∀ page, cache.present page = true →
    0 < cache.pageLen (images cache.index.blobIdentity).size page ∧
      ∀ x, page * cache.index.pageSize ≤ x →
        x < page * cache.index.pageSize + cache.pageLen (images cache.index.blobIdentity).size page →
        cache.file.bytes x = (images cache.index.blobIdentity).data x
  pending : ∀ fetched ∈ cache.pending, 0 < cache.pageLen (images cache.index.blobIdentity).size fetched.1 ∧
    fetched.2 = slice (images cache.index.blobIdentity).data (fetched.1 * cache.index.pageSize)
      (cache.pageLen (images cache.index.blobIdentity).size fetched.1)

/-- An entry of the index names a page that a cache holds. -/
def IndexEntry.HeldBy (images : String → PageBlob) (entry : IndexEntry) (cache : PeerCache) : Prop :=
  cache.index.owner = entry.owner ∧ cache.index.pid = entry.pid ∧ cache.index.blobIdentity = entry.blobIdentity ∧
    cache.present entry.pageIdx = true ∧
    entry.len = cache.pageLen (images cache.index.blobIdentity).size entry.pageIdx

structure PeerDir.Sound (images : String → PageBlob) (dir : PeerDir) : Prop where
  owners : (dir.caches.map fun cache => cache.index.owner).Nodup
  caches : ∀ cache ∈ dir.caches, cache.Sound images
  entries : ∀ entry ∈ dir.entries, ∃ cache ∈ dir.caches, entry.HeldBy images cache

/-- Caches of one directory differ in their owners. -/
theorem PeerDir.Sound.unique (sound : dir.Sound images) {other : PeerCache} (member : cache ∈ dir.caches)
    (otherMember : other ∈ dir.caches) (same : cache.index.owner = other.index.owner) : cache = other :=
  List.inj_on_of_nodup_map sound.owners member otherMember same

theorem PeerDir.Sound.files (sound : dir.Sound images) (member : cache ∈ dir.caches) {owner : String}
    (named : cache.index.owner = owner) : dir.files owner = some cache.file := by
  unfold PeerDir.files
  cases found : dir.caches.find? fun cache => cache.index.owner = owner with
  | none =>
      have missing := List.find?_eq_none.mp found cache member
      simp [named] at missing
  | some first =>
      have same : first.index.owner = owner := by simpa using List.find?_some found
      rw [sound.unique (List.mem_of_find?_eq_some found) member (same.trans named.symm), Option.map_some]

/-- A cache moves within its own pages, and the entries that are left name pages that it still holds. -/
theorem PeerDir.Sound.replace (sound : dir.Sound images) {number : Nat} (found : dir.caches[number]? = some cache)
    {moved : PeerCache} (movedSound : moved.Sound images) (index : moved.index = cache.index) {entries : List IndexEntry}
    (listed : ∀ entry ∈ entries, entry.HeldBy images moved ∨ (entry ∈ dir.entries ∧
      (entry.HeldBy images cache → moved.present entry.pageIdx = true))) :
    PeerDir.Sound images ⟨dir.caches.set number moved, entries⟩ where
  owners := by
    obtain ⟨inside, here⟩ := List.getElem?_eq_some_iff.mp found
    have same : (dir.caches.set number moved).map (fun cache => cache.index.owner) =
        dir.caches.map fun cache => cache.index.owner := by
      have mapped : number < (dir.caches.map fun cache => cache.index.owner).length := by
        rw [List.length_map]
        exact inside
      have owner : cache.index.owner = (dir.caches.map fun cache => cache.index.owner)[number] := by
        rw [List.getElem_map, here]
      rw [List.map_set, index, owner]
      exact List.set_getElem_self _
    rw [same]
    exact sound.owners
  caches other member := by
    rcases List.mem_or_eq_of_mem_set member with old | rfl
    · exact sound.caches other old
    · exact movedSound
  entries entry member := by
    have inside : number < dir.caches.length := (List.getElem?_eq_some_iff.mp found).1
    have own : moved ∈ dir.caches.set number moved := List.mem_set inside moved
    rcases listed entry member with held | ⟨old, kept⟩
    · exact ⟨moved, own, held⟩
    · obtain ⟨holder, holderMember, held⟩ := sound.entries entry old
      by_cases same : holder = cache
      · subst same
        refine ⟨moved, own, ?_⟩
        obtain ⟨owner, pid, identity, _, len⟩ := held
        refine ⟨by rw [index, owner], by rw [index, pid], by rw [index, identity], kept ⟨owner, pid, identity, ‹_›, len⟩, ?_⟩
        rw [PeerCache.pageLen, index]
        exact len
      · refine ⟨holder, ?_, held⟩
        obtain ⟨place, within, rfl⟩ := List.getElem_of_mem holderMember
        refine List.mem_of_getElem? (i := place) ?_
        rw [List.getElem?_set_ne, List.getElem?_eq_getElem within]
        rintro rfl
        rw [List.getElem?_eq_getElem within] at found
        exact same (Option.some.inj found)

end Invariant

section Read

/-- The bytes lie inside a page that the owner of the entry has published. -/
def InPublished (dir : PeerDir) (peer : IndexEntry) (low len : Nat) : Prop :=
  ∃ owner ∈ dir.caches, owner.index.owner = peer.owner ∧ ∃ entry ∈ dir.entries, entry.owner = peer.owner ∧
    entry.pid = peer.pid ∧ entry.blobIdentity = peer.blobIdentity ∧ entry.pageIdx * owner.index.pageSize ≤ low ∧
    low + len ≤ entry.pageIdx * owner.index.pageSize + entry.len

/-- In its own numbering the owner has published the page that the bytes start in, and they end before the page does. -/
def OwnerPage (dir : PeerDir) (peer : IndexEntry) (low len : Nat) : Prop :=
  ∃ owner ∈ dir.caches, owner.index.owner = peer.owner ∧ ∃ entry ∈ dir.entries, entry.owner = peer.owner ∧
    entry.pid = peer.pid ∧ entry.blobIdentity = peer.blobIdentity ∧ entry.pageIdx = low / owner.index.pageSize ∧
    low % owner.index.pageSize + len ≤ entry.len

/-- The entry that a read of a peer's page goes to. -/
def PeerDir.peerOf (dir : PeerDir) (cache : PeerCache) (page len : Nat) (alive : Nat → Bool) : Option IndexEntry :=
  cache.index.findPeer page len (CacheIndex.pruneDead dir.entries cache.index.pid alive)

variable {page len : Nat} {alive : Nat → Bool} {peer : IndexEntry}

theorem peerOf_spec (found : dir.peerOf cache page len alive = some peer) :
    peer ∈ dir.entries ∧ peer.blobIdentity = cache.index.blobIdentity ∧ peer.pageIdx = page ∧ peer.len = len := by
  have member := List.mem_of_find?_eq_some found
  have matched := List.find?_some found
  simp only [decide_eq_true_eq] at matched
  exact ⟨List.mem_of_mem_filter member, matched.1, matched.2.1, matched.2.2.2⟩

/-- The entry of an owner that is found by name is held by the owner. -/
theorem PeerDir.Sound.held (sound : dir.Sound images) (member : cache ∈ dir.caches) {entry : IndexEntry}
    (listed : entry ∈ dir.entries) (named : cache.index.owner = entry.owner) : entry.HeldBy images cache := by
  obtain ⟨holder, holderMember, held⟩ := sound.entries entry listed
  rw [sound.unique member holderMember (named.trans held.1.symm)]
  exact held

theorem ownerPage_iff (sound : dir.Sound images) (positive : 0 < len) {low : Nat} :
    OwnerPage dir peer low len ↔ InPublished dir peer low len := by
  constructor
  · rintro ⟨owner, member, named, entry, listed, same, pid, identity, page, fits⟩
    refine ⟨owner, member, named, entry, listed, same, pid, identity, ?_, ?_⟩
    · rw [page]
      exact Nat.div_mul_le_self _ _
    · have split := Nat.div_add_mod low owner.index.pageSize
      rw [page, Nat.mul_comm]
      omega
  · rintro ⟨owner, member, named, entry, listed, same, pid, identity, starts, ends⟩
    have held := sound.held member listed (named.trans same.symm)
    have short : entry.len ≤ owner.index.pageSize := by
      rw [held.2.2.2.2]
      exact Nat.min_le_left _ _
    have pages : low / owner.index.pageSize = entry.pageIdx := by
      rw [Nat.div_eq_iff (sound.caches owner member).positive]
      constructor
      · exact starts
      · omega
    refine ⟨owner, member, named, entry, listed, same, pid, identity, pages.symm, ?_⟩
    have split := Nat.div_add_mod low owner.index.pageSize
    rw [pages, Nat.mul_comm] at split
    omega

/-- A read inside a published page returns the bytes of the blob. -/
theorem tryPeerPage_exact (sound : dir.Sound images) (found : dir.peerOf cache page len alive = some peer)
    (inside : InPublished dir peer (page * cache.index.pageSize) len) {data : List UInt8}
    (served : dir.tryPeerPage cache page len alive = some data) :
    data = slice (images cache.index.blobIdentity).data (page * cache.index.pageSize) len := by
  obtain ⟨owner, member, named, entry, listed, same, _, identity, starts, ends⟩ := inside
  obtain ⟨_, peerIdentity, _, _⟩ := peerOf_spec found
  have held := sound.held member listed (named.trans same.symm)
  obtain ⟨_, filled⟩ := (sound.caches owner member).filled entry.pageIdx held.2.2.2.1
  unfold PeerDir.tryPeerPage CacheIndex.readPeerPage at served
  rw [show cache.index.findPeer page len _ = some peer from found, Option.bind_some, sound.files member named,
    Option.bind_some, File.readExactAt] at served
  split at served
  · obtain rfl := Option.some.inj served
    refine slice_congr fun x low high => ?_
    rw [filled x (by omega) (by rw [← held.2.2.2.2]; omega), held.2.2.1, identity, peerIdentity]
  · cases served

end Read

section Run

/-- A fetch from a peer stays inside a page that the peer has published. -/
def Meets (images : String → PageBlob) (dir : PeerDir) : PeerEvent → Prop
  | .fetch number page alive => ∀ cache, dir.caches[number]? = some cache → ∀ peer,
      dir.peerOf cache page (cache.pageLen (images cache.index.blobIdentity).size page) alive = some peer →
        OwnerPage dir peer (page * cache.index.pageSize) (cache.pageLen (images cache.index.blobIdentity).size page)
  | _ => True

theorem tryPeerPage_peer {page len : Nat} {alive : Nat → Bool} {data : List UInt8}
    (served : dir.tryPeerPage cache page len alive = some data) :
    ∃ peer, dir.peerOf cache page len alive = some peer := by
  obtain ⟨peer, found, _⟩ := Option.bind_eq_some_iff.mp served
  exact ⟨peer, found⟩

theorem fetchPage_exact (sound : dir.Sound images) {page : Nat} {alive : Nat → Bool}
    (inside : 0 < cache.pageLen (images cache.index.blobIdentity).size page)
    (met : ∀ peer, dir.peerOf cache page (cache.pageLen (images cache.index.blobIdentity).size page) alive = some peer →
      OwnerPage dir peer (page * cache.index.pageSize) (cache.pageLen (images cache.index.blobIdentity).size page)) :
    dir.fetchPage images cache page alive = slice (images cache.index.blobIdentity).data (page * cache.index.pageSize)
      (cache.pageLen (images cache.index.blobIdentity).size page) := by
  unfold PeerDir.fetchPage
  dsimp only
  cases served : dir.tryPeerPage cache page (cache.pageLen (images cache.index.blobIdentity).size page) alive with
  | none => rfl
  | some data =>
      obtain ⟨peer, found⟩ := tryPeerPage_peer served
      exact tryPeerPage_exact sound found ((ownerPage_iff sound inside).mp (met peer found)) served

/-- Storing a page of zeros as a hole gives the file the same bytes. -/
theorem storeCleanPage_bytes (cache : PeerCache) (page : Nat) (data : List UInt8) :
    (cache.storeCleanPage page data).file.bytes = splice cache.file.bytes (page * cache.index.pageSize) data := by
  unfold PeerCache.storeCleanPage
  dsimp only
  split
  · rename_i zero
    rw [splice_all_zero _ _ _ (by simpa using zero)]
    rfl
  · rfl

theorem storeCleanPage_sound (sound : cache.Sound images) {page : Nat} {data : List UInt8}
    (inside : 0 < cache.pageLen (images cache.index.blobIdentity).size page)
    (exact : data = slice (images cache.index.blobIdentity).data (page * cache.index.pageSize)
      (cache.pageLen (images cache.index.blobIdentity).size page)) :
    (cache.storeCleanPage page data).Sound images where
  positive := sound.positive
  filled other known := by
    change 0 < cache.pageLen _ other ∧ ∀ x, other * cache.index.pageSize ≤ x → x < _ + cache.pageLen _ other → _ = _
    have present : other = page ∨ cache.present other = true := by
      by_cases same : other = page
      · exact .inl same
      · refine .inr ?_
        have kept : Function.update cache.present page true other = true := known
        rwa [Function.update_of_ne same] at kept
    have within : 0 < cache.pageLen (images cache.index.blobIdentity).size other := by
      rcases present with rfl | old
      · exact inside
      · exact (sound.filled other old).1
    refine ⟨within, fun x low high => ?_⟩
    rw [storeCleanPage_bytes, exact, splice_slice]
    split
    · rfl
    · rename_i outside
      rcases present with rfl | old
      · exact absurd ⟨low, high⟩ outside
      · exact (sound.filled other old).2 x low high
  pending := sound.pending

/-- A byte belongs to one page. -/
theorem page_of_byte {devSize page x : Nat} (positive : 0 < cache.index.pageSize) (low : page * cache.index.pageSize ≤ x)
    (high : x < page * cache.index.pageSize + cache.pageLen devSize page) : x / cache.index.pageSize = page := by
  have short : cache.pageLen devSize page ≤ cache.index.pageSize := Nat.min_le_left _ _
  rw [Nat.div_eq_iff positive]
  constructor
  · exact low
  · omega

theorem evictPage_sound (sound : cache.Sound images) (page : Nat) :
    (cache.evictPage page (cache.pageLen (images cache.index.blobIdentity).size page)).Sound images where
  positive := sound.positive
  filled other known := by
    have different : other ≠ page := by
      rintro rfl
      have gone : Function.update cache.present other false other = true := known
      rw [Function.update_self] at gone
      cases gone
    have old : cache.present other = true := by
      have kept : Function.update cache.present page false other = true := known
      rwa [Function.update_of_ne different] at kept
    obtain ⟨inside, filled⟩ := sound.filled other old
    refine ⟨inside, fun x low high => ?_⟩
    change zeroed cache.file.bytes _ _ x = _
    rw [zeroed, if_neg ?_]
    · exact filled x low high
    · rintro ⟨start, stop⟩
      refine different ?_
      rw [← page_of_byte sound.positive low high, page_of_byte sound.positive start stop]
  pending := sound.pending

/-- Publishing adds or updates one entry. -/
theorem mem_publish {index : CacheIndex} {page len : Nat} {entries : List IndexEntry} {entry : IndexEntry}
    (listed : entry ∈ index.publish page len entries) :
    entry = ⟨index.blobIdentity, page, index.owner, index.pid, len⟩ ∨ entry ∈ entries := by
  unfold CacheIndex.publish at listed
  induction entries with
  | nil => exact .inl (List.mem_singleton.mp listed)
  | cons first rest ih =>
      rw [CacheIndex.upsert] at listed
      split at listed
      · rename_i own
        obtain ⟨owner, pid, identity, same⟩ := of_decide_eq_true own
        rcases List.mem_cons.mp listed with rfl | later
        · rw [← owner, ← pid, ← identity, ← same]
          exact .inl rfl
        · exact .inr (List.mem_cons_of_mem _ later)
      · rcases List.mem_cons.mp listed with rfl | later
        · exact .inr List.mem_cons_self
        · exact (ih later).imp_right fun old => List.mem_cons_of_mem _ old

/-- A step whose fetch stays inside a published page keeps the directory sound. -/
theorem PeerDir.Sound.step (sound : dir.Sound images) {event : PeerEvent} (met : Meets images dir event)
    (taken : dir.step images event = some next) : next.Sound images := by
  cases event with
  | fetch number page alive =>
      obtain ⟨cache, found, rest⟩ := Option.bind_eq_some_iff.mp taken
      split at rest
      · cases rest
      · rename_i idle
        obtain rfl := Option.some.inj rest
        have member := List.mem_of_getElem? found
        have own := sound.caches cache member
        have inside : 0 < cache.pageLen (images cache.index.blobIdentity).size page := by
          rw [not_or] at idle
          exact Nat.pos_of_ne_zero idle.2
        have fetchedSound : PeerCache.Sound images
            { cache with pending := (page, dir.fetchPage images cache page alive) :: cache.pending } := by
          refine ⟨own.positive, own.filled, fun fetched among => ?_⟩
          rcases List.mem_cons.mp among with rfl | old
          · exact ⟨inside, fetchPage_exact sound inside (met cache found)⟩
          · exact own.pending fetched old
        exact sound.replace found fetchedSound rfl fun entry listed => .inr ⟨listed, fun held => held.2.2.2.1⟩
  | store number slot =>
      obtain ⟨cache, found, rest⟩ := Option.bind_eq_some_iff.mp taken
      obtain ⟨fetched, there, rfl⟩ := Option.map_eq_some_iff.mp rest
      have own := sound.caches cache (List.mem_of_getElem? found)
      have takenSound : PeerCache.Sound images { cache with pending := cache.pending.eraseIdx slot } :=
        ⟨own.positive, own.filled, fun other member => own.pending other (List.mem_of_mem_eraseIdx member)⟩
      obtain ⟨inside, exact'⟩ := own.pending fetched (List.mem_of_getElem? there)
      split
      · exact sound.replace found takenSound rfl fun entry listed => .inr ⟨listed, fun held => held.2.2.2.1⟩
      · refine sound.replace found (storeCleanPage_sound takenSound inside exact') rfl fun entry listed =>
          .inr ⟨listed, fun held => ?_⟩
        change Function.update cache.present fetched.1 true entry.pageIdx = true
        by_cases same : entry.pageIdx = fetched.1
        · rw [same, Function.update_self]
        · rw [Function.update_of_ne same]
          exact held.2.2.2.1
  | publish number page alive =>
      obtain ⟨cache, found, rest⟩ := Option.bind_eq_some_iff.mp taken
      split at rest
      · rename_i present
        obtain rfl := Option.some.inj rest
        have member := List.mem_of_getElem? found
        refine ⟨sound.owners, sound.caches, fun entry listed => ?_⟩
        rcases mem_publish listed with rfl | old
        · exact ⟨cache, member, rfl, rfl, rfl, present, rfl⟩
        · exact sound.entries entry (List.mem_of_mem_filter old)
      · cases rest
  | evict number page alive =>
      obtain ⟨cache, found, rest⟩ := Option.bind_eq_some_iff.mp taken
      split at rest
      · rename_i present
        obtain rfl := Option.some.inj rest
        have own := sound.caches cache (List.mem_of_getElem? found)
        refine sound.replace found (evictPage_sound own page) rfl fun entry listed => .inr ?_
        obtain ⟨old, unnamed⟩ := List.mem_filter.mp listed
        refine ⟨List.mem_of_mem_filter old, fun held => ?_⟩
        have different : entry.pageIdx ≠ page := by
          intro same
          simp [CacheIndex.names, held.1, held.2.1, held.2.2.1, same] at unnamed
        change Function.update cache.present page false entry.pageIdx = true
        rw [Function.update_of_ne different]
        exact held.2.2.2.1
      · cases rest
  | close number alive =>
      obtain ⟨cache, found, rfl⟩ := Option.map_eq_some_iff.mp taken
      exact ⟨sound.owners, sound.caches, fun entry listed =>
        sound.entries entry (List.mem_of_mem_filter (List.mem_of_mem_filter listed))⟩

/-- The caches have just been opened, and what they have recovered repeats their blobs. -/
structure JustOpened (images : String → PageBlob) (dir : PeerDir) : Prop where
  owners : (dir.caches.map fun cache => cache.index.owner).Nodup
  caches : ∀ cache ∈ dir.caches, cache.Sound images
  unlisted : dir.entries = []

/-- The directories that are reached by steps whose fetches stay inside published pages. -/
inductive MeetingRun (images : String → PageBlob) (start : PeerDir) : PeerDir → Prop where
  | start : MeetingRun images start start
  | step {dir next : PeerDir} (event : PeerEvent) (earlier : MeetingRun images start dir)
      (met : Meets images dir event) (taken : dir.step images event = some next) : MeetingRun images start next

theorem MeetingRun.sound {start : PeerDir} (opened : JustOpened images start) (run : MeetingRun images start dir) :
    dir.Sound images := by
  induction run with
  | start =>
      refine ⟨opened.owners, opened.caches, fun entry listed => ?_⟩
      rw [opened.unlisted] at listed
      cases listed
  | step event earlier met taken ih => exact ih.step met taken

/-- A read of the page of a peer with the same page size, or of the first page, stays inside that page. -/
theorem ownerPage_of_same {page len : Nat} {alive : Nat → Bool} {peer : IndexEntry}
    (found : dir.peerOf cache page len alive = some peer) {owner : PeerCache} (member : owner ∈ dir.caches)
    (named : owner.index.owner = peer.owner) (positive : 0 < owner.index.pageSize)
    (same : owner.index.pageSize = cache.index.pageSize ∨ page = 0) :
    OwnerPage dir peer (page * cache.index.pageSize) len := by
  obtain ⟨listed, _, number, length⟩ := peerOf_spec found
  refine ⟨owner, member, named, peer, listed, rfl, rfl, rfl, ?_, ?_⟩
  · rcases same with equal | first
    · rw [← equal, Nat.mul_div_cancel _ positive, number]
    · rw [number, first, Nat.zero_mul, Nat.zero_div]
  · rcases same with equal | first
    · rw [← equal, Nat.mul_mod_left, length, Nat.zero_add]
    · rw [first, Nat.zero_mul, Nat.zero_mod, length, Nat.zero_add]

/-- In a run whose fetches stay inside published pages, a page that a peer supplies is the page of the blob and lies
inside a published page exactly when the owner has published, in its own numbering, the page that holds the bytes; with
equal page sizes, and for the first page, it has. -/
theorem peer_read_exact_iff (images : String → PageBlob) (start dir : PeerDir) (opened : JustOpened images start)
    (run : MeetingRun images start dir) (cache : PeerCache) (page len : Nat) (alive : Nat → Bool)
    (data : List UInt8) (served : dir.tryPeerPage cache page len alive = some data) :
    ∃ peer, dir.peerOf cache page len alive = some peer ∧
      ((data = slice (images cache.index.blobIdentity).data (page * cache.index.pageSize) len ∧
        InPublished dir peer (page * cache.index.pageSize) len) ↔
          OwnerPage dir peer (page * cache.index.pageSize) len) ∧
      ∀ owner ∈ dir.caches, owner.index.owner = peer.owner →
        (owner.index.pageSize = cache.index.pageSize ∨ page = 0) →
          OwnerPage dir peer (page * cache.index.pageSize) len := by
  have sound := run.sound opened
  obtain ⟨peer, found⟩ := tryPeerPage_peer served
  obtain ⟨listed, _, _, length⟩ := peerOf_spec found
  obtain ⟨holder, member, held⟩ := sound.entries peer listed
  have positive : 0 < len := by
    rw [← length, held.2.2.2.2]
    exact ((sound.caches holder member).filled peer.pageIdx held.2.2.2.1).1
  refine ⟨peer, found, ?_, fun owner member named same =>
    ownerPage_of_same found member named (sound.caches owner member).positive same⟩
  rw [ownerPage_iff sound positive]
  exact ⟨fun both => both.2, fun inside => ⟨tryPeerPage_exact sound found inside served, inside⟩⟩

end Run

section Sample

/-- A blob of sevens, with a short last page of 1024 bytes. -/
def sevens (_ : String) : PageBlob := ⟨1536, fun _ => 7⟩

def emptyCache (owner : String) (pid pageSize : Nat) : PeerCache :=
  ⟨⟨owner, "base", pid, pageSize⟩, fun _ => false, [], ⟨1536, fun _ => 0⟩⟩

def warmSecond : List PeerEvent := [.fetch 0 1 fun _ => true, .store 0 0, .publish 0 1 fun _ => true]

/-- The short last page of the owner has the length of a whole page of the reader, which reads a hole instead. -/
theorem short_page_misread :
    ((execute (PeerDir.step sevens) ⟨[emptyCache "wide" 1 1024, emptyCache "narrow" 2 512], []⟩ warmSecond).bind
      fun dir => dir.caches[1]?.bind fun narrow => dir.tryPeerPage narrow 1 512 fun _ => true) =
        some (List.replicate 512 0) ∧
      slice (sevens "base").data (1 * 512) 512 ≠ List.replicate 512 0 := by
  decide +kernel

def twins : PeerDir := ⟨[emptyCache "left" 1 512, emptyCache "right" 2 512], []⟩

theorem emptyCache_sound (owner : String) (pid : Nat) : (emptyCache owner pid 512).Sound sevens :=
  ⟨Nat.zero_lt_succ _, fun _ known => (by cases known), fun _ member => (by cases member)⟩

theorem peer_read_exact_twins :
    ∃ dir right data, MeetingRun sevens twins dir ∧ dir.tryPeerPage right 1 512 (fun _ => true) = some data ∧
      data = slice (sevens "base").data (1 * 512) 512 := by
  have opened : JustOpened sevens twins :=
    ⟨by decide, fun cache member => by
      rcases List.mem_pair.mp member with rfl | rfl
      · exact emptyCache_sound "left" 1
      · exact emptyCache_sound "right" 2, rfl⟩
  have met : Meets sevens twins (.fetch 0 1 fun _ => true) := by
    intro cache found peer seen
    obtain rfl := Option.some.inj found
    cases seen
  refine ⟨_, emptyCache "right" 2 512, List.replicate 512 7,
    .step (.publish 0 1 fun _ => true) (.step (.store 0 0) (.step (.fetch 0 1 fun _ => true) .start met rfl) trivial rfl)
      trivial rfl, by decide +kernel, ?_⟩
  obtain ⟨peer, found, exact', same⟩ := peer_read_exact_iff sevens twins _ opened
    (.step (.publish 0 1 fun _ => true) (.step (.store 0 0) (.step (.fetch 0 1 fun _ => true) .start met rfl) trivial rfl)
      trivial rfl) (emptyCache "right" 2 512) 1 512 (fun _ => true) (List.replicate 512 7) (by decide +kernel)
  obtain rfl := Option.some.inj found
  exact (exact'.mpr (same _ (List.mem_cons_self) rfl (.inl rfl))).1

end Sample
end UblkAzblob
