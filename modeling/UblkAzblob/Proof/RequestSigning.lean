import Mathlib.Data.List.Nodup
import UblkAzblob.Construction.RequestSigning
import UblkAzblob.Foundation.FileTree

namespace UblkAzblob
open Storage

namespace RequestSigning
open CaseLib

section Sorting

theorem sortByName_entries (entries : List (List Char × List Char)) : (sortByName entries).Perm entries :=
  List.perm_insertionSort _ entries

theorem sortByName_sorted (entries : List (List Char × List Char)) :
    (sortByName entries).Pairwise fun first second => first.1 ≤ second.1 := by
  have total : Std.Total fun first second : List Char × List Char => first.1 ≤ second.1 := ⟨fun _ _ => le_total _ _⟩
  have transitive : IsTrans (List Char × List Char) fun first second => first.1 ≤ second.1 := ⟨fun _ _ _ => le_trans⟩
  exact List.pairwise_insertionSort _ entries

/-- Entries of distinct names are sorted alike, whatever order they come in. -/
theorem sortByName_perm {first second : List (List Char × List Char)} (perm : first.Perm second)
    (distinct : (first.map Prod.fst).Nodup) : sortByName first = sortByName second := by
  have same : (sortByName first).Perm (sortByName second) :=
    (sortByName_entries first).trans (perm.trans (sortByName_entries second).symm)
  refine same.eq_of_pairwise ?_ (sortByName_sorted first) (sortByName_sorted second)
  intro a b left right below above
  have names : a.1 = b.1 := le_antisymm below above
  have inFirst : a ∈ first := (sortByName_entries first).mem_iff.mp left
  have inSecond : b ∈ first := perm.mem_iff.mpr ((sortByName_entries second).mem_iff.mp right)
  exact List.inj_on_of_nodup_map distinct inFirst inSecond names

end Sorting

section Headers

variable [CaseLib] {headers other : Headers} {name query : String} {value : List Char}

/-- A header is found exactly when it is there. -/
theorem get_eq_some : headers.get name = some value ↔ (name.toList, value) ∈ headers.entries := by
  unfold Headers.get
  constructor
  · intro found
    obtain ⟨entry, first, rfl⟩ := Option.map_eq_some_iff.mp found
    have named : entry.1 = name.toList := by simpa using List.find?_some first
    rw [← named]
    exact List.mem_of_find?_eq_some first
  · intro member
    cases first : headers.entries.find? fun entry => entry.1 = name.toList with
    | none => simpa using List.find?_eq_none.mp first _ member
    | some entry =>
        have named : entry.1 = name.toList := by simpa using List.find?_some first
        have same := List.inj_on_of_nodup_map headers.distinct (List.mem_of_find?_eq_some first) member named
        rw [same]
        rfl

theorem get_perm (perm : headers.entries.Perm other.entries) (name : String) : headers.get name = other.get name := by
  apply Option.ext
  intro value
  rw [get_eq_some, get_eq_some, perm.mem_iff]

/-- Headers that are found alike are the same but for their order. -/
theorem perm_of_get (same : ∀ name, headers.get name = other.get name) : headers.entries.Perm other.entries := by
  rw [List.perm_ext_iff_of_nodup (headers.distinct.of_map) (other.distinct.of_map)]
  intro entry
  have both := same (String.ofList entry.1)
  have left := @get_eq_some _ headers (String.ofList entry.1) entry.2
  have right := @get_eq_some _ other (String.ofList entry.1) entry.2
  rw [String.toList_ofList] at left right
  rw [← left, ← right, both]

theorem get_insert (lowered : toLowercase name.toList = name.toList) :
    (headers.insert name value lowered).get query = if query = name then some value else headers.get query := by
  apply Option.ext
  intro found
  rw [get_eq_some]
  simp only [Headers.insert, List.mem_append, List.mem_filter, List.mem_singleton, Prod.mk.injEq, String.toList_inj,
    ne_eq, decide_not, Bool.not_eq_true', decide_eq_false_iff_not]
  split
  · rename_i same
    subst same
    simp [eq_comm]
  · rename_i different
    rw [get_eq_some]
    simp [different]

end Headers

section Canonical

variable [CaseLib] {headers other : Headers} {first second : Request} {policy : SharedKeyPolicy}

/-- Two requests are the same but for the order in which their headers are iterated. -/
structure Same (first second : Request) : Prop where
  method : first.method = second.method
  path : first.path = second.path
  query : first.query = second.query
  headers : first.headers.entries.Perm second.headers.entries

theorem Same.refl (request : Request) : Same request request := ⟨rfl, rfl, rfl, .refl _⟩

theorem Same.symm (same : Same first second) : Same second first :=
  ⟨same.method.symm, same.path.symm, same.query.symm, same.headers.symm⟩

theorem Same.trans {third : Request} (same : Same first second) (next : Same second third) : Same first third :=
  ⟨same.method.trans next.method, same.path.trans next.path, same.query.trans next.query,
    same.headers.trans next.headers⟩

/-- The entry of a header as it is signed, if it is a header of the storage service. -/
def msEntry (entry : List Char × List Char) : Option (List Char × List Char) :=
  if msPrefix <+: toLowercase entry.1
    then some (toLowercase entry.1, trimBoth FileCacheBackend.isWhitespace entry.2) else none

theorem msHeaders_eq (headers : Headers) : msHeaders headers = sortByName (headers.entries.filterMap msEntry) := rfl

theorem msEntry_some {entry signed : List Char × List Char} (member : entry ∈ headers.entries)
    (found : msEntry entry = some signed) :
    signed = (entry.1, trimBoth FileCacheBackend.isWhitespace entry.2) ∧ msPrefix <+: entry.1 := by
  unfold msEntry at found
  rw [headers.lower entry member] at found
  split at found
  · rename_i starts
    exact ⟨(Option.some.inj found).symm, starts⟩
  · cases found

theorem msEntries_names {entries : List (List Char × List Char)}
    (inside : ∀ entry ∈ entries, entry ∈ headers.entries) :
    ((entries.filterMap msEntry).map Prod.fst).Sublist (entries.map Prod.fst) := by
  induction entries with
  | nil => exact .slnil
  | cons entry rest inductionHypothesis =>
      obtain ⟨member, others⟩ := List.forall_mem_cons.mp inside
      cases found : msEntry entry with
      | none =>
          rw [List.filterMap_cons_none found]
          exact (inductionHypothesis others).cons _
      | some signed =>
          rw [List.filterMap_cons_some found, List.map_cons, List.map_cons, (msEntry_some member found).1]
          exact (inductionHypothesis others).cons_cons _

theorem msEntries_distinct (headers : Headers) : ((headers.entries.filterMap msEntry).map Prod.fst).Nodup :=
  headers.distinct.sublist (msEntries_names fun _ member => member)

theorem msHeaders_perm (perm : headers.entries.Perm other.entries) : msHeaders headers = msHeaders other := by
  rw [msHeaders_eq, msHeaders_eq]
  exact sortByName_perm (perm.filterMap _) (msEntries_distinct headers)

/-- A header of another kind is not signed with the headers of the storage service. -/
theorem msHeaders_insert {name : String} {value : List Char} (lowered : toLowercase name.toList = name.toList)
    (foreign : ¬ msPrefix <+: name.toList) : msHeaders (headers.insert name value lowered) = msHeaders headers := by
  have dropped : msEntry (name.toList, value) = none := by
    rw [msEntry, lowered, if_neg foreign]
  have kept : (headers.entries.filter fun entry => entry.1 ≠ name.toList).filterMap msEntry =
      headers.entries.filterMap msEntry := by
    rw [List.filterMap_filter]
    apply List.filterMap_congr
    intro entry member
    split
    · rfl
    · rename_i same
      have named : entry.1 = name.toList := by simpa using same
      rw [msEntry, named, lowered, if_neg foreign]
  rw [msHeaders_eq, msHeaders_eq]
  dsimp only [Headers.insert]
  rw [List.filterMap_append, kept, List.filterMap_cons_none dropped, List.filterMap_nil, List.append_nil]

theorem standardHeaders_congr (same : ∀ name, name ≠ "authorization" → headers.get name = other.get name) :
    standardHeaders headers = standardHeaders other := by
  simp only [standardHeaders, contentLength, same "content-encoding" (by decide), same "content-language" (by decide),
    same "content-length" (by decide), same "content-md5" (by decide), same "content-type" (by decide),
    same "date" (by decide), same "if-modified-since" (by decide), same "if-match" (by decide),
    same "if-none-match" (by decide), same "if-unmodified-since" (by decide), same "range" (by decide)]

/-- The order of the headers is not signed. -/
theorem Same.stringToSign (same : Same first second) : policy.stringToSign first = policy.stringToSign second := by
  have standard : standardHeaders first.headers = standardHeaders second.headers :=
    standardHeaders_congr fun name _ => get_perm same.headers name
  have signed := msHeaders_perm same.headers
  simp only [SharedKeyPolicy.stringToSign, canonicalizedHeaders, same.method, same.path, same.query, signed, standard]

theorem Same.sign (same : Same first second) : policy.sign first = policy.sign second := by
  have text : policy.stringToSign first = policy.stringToSign second := same.stringToSign
  unfold SharedKeyPolicy.sign
  rw [text]

/-- The signature does not sign itself. -/
theorem sign_authorization (request : Request) (value : List Char) :
    policy.sign { request with headers := request.headers.insert "authorization" value authorization_lower } =
      policy.sign request := by
  have standard : standardHeaders (request.headers.insert "authorization" value authorization_lower) =
      standardHeaders request.headers := by
    apply standardHeaders_congr
    intro name different
    rw [get_insert, if_neg different]
  have signed := @msHeaders_insert _ request.headers "authorization" value authorization_lower (by decide)
  unfold SharedKeyPolicy.sign SharedKeyPolicy.stringToSign canonicalizedHeaders
  dsimp only
  rw [signed, standard]

end Canonical
section Attempts

theorem date_ne_authorization : "x-ms-date" ≠ "authorization" := by decide

variable [CaseLib] {policy : Policy} {original request next : Request} {sending after : Sending}

/-- The service computes the signature from the request that it receives. -/
def SharedKeyPolicy.Verifies (policy : SharedKeyPolicy) (received : Request) : Prop :=
  received.headers.get "authorization" = some (policy.sign received)

/-- A request that was signed for an original: it has a date, and its signature is that of what it says. -/
structure Signed (policy : SharedKeyPolicy) (original request : Request) : Prop where
  method : request.method = original.method
  path : request.path = original.path
  query : request.query = original.query
  kept : ∀ name, name ≠ "authorization" → (name = "x-ms-date" → (original.headers.get name).isSome) →
    request.headers.get name = original.headers.get name
  dated : (request.headers.get "x-ms-date").isSome
  verified : policy.Verifies request

/-- What an attempt makes of the original request. -/
def Finished (original request : Request) : Policy → Prop
  | .sharedKey policy => Signed policy original request
  | .sas pairs => request.method = original.method ∧ request.path = original.path ∧
      request.headers.entries.Perm original.headers.entries ∧
      request.query = original.query ++ pairs.filter fun pair => !(original.query.map Prod.fst).contains pair.1

theorem Same.verifies {policy : SharedKeyPolicy} (same : Same request next) (verified : policy.Verifies request) :
    policy.Verifies next := by
  have signature : policy.sign request = policy.sign next := same.sign
  unfold SharedKeyPolicy.Verifies at verified ⊢
  rw [← get_perm same.headers, verified, signature]

/-- A request with the header of its signature is verified. -/
theorem authorize_verifies (policy : SharedKeyPolicy) (request : Request) :
    policy.Verifies { request with
      headers := request.headers.insert "authorization" (policy.sign request) authorization_lower } := by
  unfold SharedKeyPolicy.Verifies
  rw [sign_authorization]
  dsimp only
  rw [get_insert, if_pos rfl]

/-- An attempt at a request that was not signed signs it. -/
theorem send_signed (policy : SharedKeyPolicy) (now : List Char) (request : Request) :
    Signed policy request (policy.send now request) := by
  by_cases dated : (request.headers.get "x-ms-date").isNone
  · rw [SharedKeyPolicy.send, if_pos dated]
    constructor
    case method => rfl
    case path => rfl
    case query => rfl
    case kept =>
      intro name other known
      dsimp only
      rw [get_insert, if_neg other, get_insert, if_neg]
      intro date
      have there := known date
      rw [date] at there
      rw [Option.isNone_iff_eq_none.mp dated] at there
      cases there
    case dated =>
      dsimp only
      rw [get_insert, if_neg date_ne_authorization, get_insert, if_pos rfl]
      rfl
    case verified => exact authorize_verifies policy _
  · rw [SharedKeyPolicy.send, if_neg dated]
    constructor
    case method => rfl
    case path => rfl
    case query => rfl
    case kept =>
      intro name other _
      dsimp only
      rw [get_insert, if_neg other]
    case dated =>
      dsimp only
      rw [get_insert, if_neg date_ne_authorization, Option.isSome_iff_ne_none]
      rw [Option.isNone_iff_eq_none] at dated
      exact dated
    case verified => exact authorize_verifies policy _

/-- An attempt at a request that was signed sends it again. -/
theorem send_again {policy : SharedKeyPolicy} (signed : Signed policy original request) (now : List Char) :
    Same (policy.send now request) request := by
  have dated : ¬ (request.headers.get "x-ms-date").isNone := by
    rw [Option.isNone_iff_eq_none, ← ne_eq, ← Option.isSome_iff_ne_none]
    exact signed.dated
  rw [SharedKeyPolicy.send, if_neg dated]
  refine ⟨rfl, rfl, rfl, perm_of_get fun name => ?_⟩
  rw [get_insert]
  split
  · rename_i authorization
    rw [authorization, signed.verified]
  · rfl

/-- The headers may be iterated in another order. -/
theorem Same.signed {policy : SharedKeyPolicy} (same : Same request next) (signed : Signed policy original request) :
    Signed policy original next := by
  refine ⟨same.method.symm.trans signed.method, same.path.symm.trans signed.path, same.query.symm.trans signed.query,
    fun name other known => ?_, ?_, same.verifies signed.verified⟩
  · rw [← get_perm same.headers, signed.kept name other known]
  · rw [← get_perm same.headers]
    exact signed.dated

theorem Same.finished (same : Same request next) (finished : Finished original request policy) :
    Finished original next policy := by
  cases policy with
  | sharedKey policy => exact same.signed finished
  | sas pairs =>
      obtain ⟨method, path, headers, query⟩ := finished
      exact ⟨same.method.symm.trans method, same.path.symm.trans path, same.headers.symm.trans headers,
        same.query.symm.trans query⟩

/-- The same request may be the original. -/
theorem Signed.of_same {policy : SharedKeyPolicy} (same : Same original next) (signed : Signed policy next request) :
    Signed policy original request := by
  refine ⟨signed.method.trans same.method.symm, signed.path.trans same.path.symm, signed.query.trans same.query.symm,
    fun name other known => ?_, signed.dated, signed.verified⟩
  rw [get_perm same.headers]
  apply signed.kept name other
  intro date
  rw [← get_perm same.headers]
  exact known date

/-- The first attempt makes of the original what it has to. -/
theorem send_finished (same : Same original request) (now : List Char) :
    Finished original (policy.send now request) policy := by
  cases policy with
  | sharedKey policy => exact (send_signed policy now request).of_same same
  | sas pairs =>
      refine ⟨same.method.symm, same.path.symm, same.headers.symm, ?_⟩
      dsimp only [Policy.send, sasSend]
      rw [same.query]

/-- A later attempt sends the request again. -/
theorem send_finished_again (finished : Finished original request policy) (now : List Char) :
    Same (policy.send now request) request := by
  cases policy with
  | sharedKey policy => exact send_again finished now
  | sas pairs =>
      obtain ⟨_, _, _, query⟩ := finished
      refine ⟨rfl, rfl, ?_, .refl _⟩
      have nothing : (pairs.filter fun pair => !(request.query.map Prod.fst).contains pair.1) = [] := by
        rw [List.filter_eq_nil_iff]
        intro pair member absent
        have missing : pair.1 ∉ request.query.map Prod.fst := by simpa using absent
        rw [query, List.map_append, List.mem_append, not_or] at missing
        apply missing.2
        exact List.mem_map_of_mem (List.mem_filter.mpr ⟨member, by simpa using missing.1⟩)
      dsimp only [Policy.send, sasSend]
      rw [nothing, List.append_nil]

/-- What was sent is the request as it stands, once an attempt was made. -/
structure Agrees (policy : Policy) (original : Request) (sending : Sending) : Prop where
  fresh : sending.sent = [] → sending.request = original
  finished : sending.sent ≠ [] → Finished original sending.request policy
  sent : ∀ request ∈ sending.sent, Same request sending.request

theorem Agrees.attempt {made : Attempt} (agrees : Agrees policy original sending)
    (taken : attempt policy sending made = some after) : Agrees policy original after := by
  unfold RequestSigning.attempt at taken
  split at taken
  · rename_i perm
    obtain rfl := Option.some.inj taken
    have reordered : Same sending.request { sending.request with headers := made.headers } := ⟨rfl, rfl, rfl, perm⟩
    by_cases first : sending.sent = []
    · have finished : Finished original
          (policy.send made.now { sending.request with headers := made.headers }) policy := by
        apply send_finished
        rw [← agrees.fresh first]
        exact reordered
      refine ⟨fun none => absurd none (by simp), fun _ => finished, fun request member => ?_⟩
      rw [first, List.nil_append, List.mem_singleton] at member
      rw [member]
      exact .refl _
    · have finished := reordered.finished (agrees.finished first)
      have again := send_finished_again finished made.now
      refine ⟨fun none => absurd none (by simp), fun _ => again.symm.finished finished, fun request member => ?_⟩
      rcases List.mem_append.mp member with before | new
      · exact ((agrees.sent request before).trans reordered).trans again.symm
      · rw [List.mem_singleton.mp new]
        exact .refl _
  · cases taken

/-- All attempts at a request send the same one, whatever the time and the order of the headers. It says what the
original said, and under a shared key the service verifies it, in whatever order it finds the headers. -/
theorem attempts_agree (policy : Policy) (original : Request) (attempts : List Attempt) (final : Sending)
    (run : execute (attempt policy) ⟨original, []⟩ attempts = some final) :
    ∀ sent ∈ final.sent, (∀ other ∈ final.sent, Same sent other) ∧ Finished original sent policy ∧
      ∀ key, policy = .sharedKey key → ∀ received, Same sent received → key.Verifies received := by
  have agrees : Agrees policy original final := by
    refine execute_preserves (fun _ _ _ kept taken => Agrees.attempt kept taken) ?_ run
    exact ⟨fun _ => rfl, fun some => absurd rfl some, fun _ member => absurd member List.not_mem_nil⟩
  intro sent member
  have same := agrees.sent sent member
  have finished := same.symm.finished (agrees.finished (List.ne_nil_of_mem member))
  refine ⟨fun other also => same.trans (agrees.sent other also).symm, finished, ?_⟩
  rintro key rfl received equal
  exact equal.verifies finished.verified

end Attempts

section Sample

/-- Texts without letters outside ASCII are lowered as here. -/
@[reducible] def asciiCase : CaseLib where
  toLowercase text := text.map Char.toLower
  ascii _ _ := rfl
  unbroken text unbroken member := by
    obtain ⟨char, inside, lowered⟩ := List.mem_map.mp member
    unfold Char.toLower at lowered
    split at lowered
    · rename_i upper
      have low : 65 ≤ char.val.toNat := UInt32.le_iff_toNat_le.mp upper.1
      have high : char.val.toNat ≤ 90 := UInt32.le_iff_toNat_le.mp upper.2
      have sum : (char.val + 32).toNat = 10 := congrArg (fun other => other.val.toNat) lowered
      rw [UInt32.toNat_add, show (32 : UInt32).toNat = 32 from rfl] at sum
      omega
    · exact unbroken (lowered ▸ inside)

attribute [local instance] asciiCase

/-- A request for a range of a blob, with its date. -/
def rangeHeaders : Headers where
  entries := [("x-ms-range".toList, "bytes=0-511".toList), ("x-ms-date".toList, "Mon, 02 Jan 2006 15:04:05 GMT".toList)]
  distinct := by decide
  lower := by decide

def reversedHeaders : Headers where
  entries := [("x-ms-date".toList, "Mon, 02 Jan 2006 15:04:05 GMT".toList), ("x-ms-range".toList, "bytes=0-511".toList)]
  distinct := by decide
  lower := by decide

def rangeRequest (headers : Headers) : Request :=
  ⟨.get, "/disks/a".toList, [("timeout".toList, "30".toList)], headers⟩

/-- The code of a text is a letter that its characters add up to. -/
def sampleKey : SharedKeyPolicy := ⟨"volumes".toList, fun text => [Char.ofNat (65 + (text.map Char.toNat).sum % 26)]⟩

/-- The headers as the second attempt finds them. -/
def signedHeaders : Headers where
  entries := ("authorization".toList, "SharedKey volumes:S".toList) :: reversedHeaders.entries
  distinct := by decide
  lower := by decide

theorem attempts_agree_reversed :
    ∃ final, execute (attempt (.sharedKey sampleKey)) ⟨rangeRequest rangeHeaders, []⟩
        [⟨[], reversedHeaders⟩, ⟨[], signedHeaders⟩] = some final ∧ final.sent.length = 2 ∧
      ∀ sent ∈ final.sent, sampleKey.Verifies sent := by
  have lived : ((execute (attempt (.sharedKey sampleKey)) ⟨rangeRequest rangeHeaders, []⟩
      [⟨[], reversedHeaders⟩, ⟨[], signedHeaders⟩]).any fun final => final.sent.length = 2) = true := by
    decide +kernel
  obtain ⟨final, run, length⟩ := (Option.any_eq_true _ _).mp lived
  refine ⟨final, run, of_decide_eq_true length, fun sent member => ?_⟩
  exact (attempts_agree (.sharedKey sampleKey) _ _ final run sent member).2.2 sampleKey rfl sent (.refl sent)

end Sample

section Text

/-- The lines of joined texts are the lines of each. -/
theorem fields_joinLines {first : List Char} (rest : List (List Char)) :
    fields '\n' (joinLines (first :: rest)) = (first :: rest).flatMap (fields '\n') := by
  induction rest generalizing first with
  | nil => simp [joinLines]
  | cons next rest inductionHypothesis =>
      have tail := @inductionHypothesis next
      unfold joinLines at tail ⊢
      rw [List.intercalate_cons_cons, List.append_assoc, List.singleton_append, fields_concat, tail]
      rfl

theorem flatMap_fields_plain {texts : List (List Char)} (plain : ∀ text ∈ texts, '\n' ∉ text) :
    texts.flatMap (fields '\n') = texts := by
  induction texts with
  | nil => rfl
  | cons text rest inductionHypothesis =>
      obtain ⟨first, others⟩ := List.forall_mem_cons.mp plain
      rw [List.flatMap_cons, fields_plain first, inductionHypothesis others]
      rfl

/-- Two lists that go on with a marked item after unmarked ones go on alike. -/
theorem append_marked {Item : Type} {marked : Item → Prop} [DecidablePred marked] {first second rest more : List Item}
    {item other : Item} (unmarked : ∀ one ∈ first, ¬ marked one) (unmarked' : ∀ one ∈ second, ¬ marked one)
    (here : marked item) (there : marked other) (same : first ++ item :: rest = second ++ other :: more) :
    first = second ∧ item = other ∧ rest = more := by
  have cut {front : List Item} (back : List Item) {middle : Item} (clear : ∀ one ∈ front, ¬ marked one)
      (marks : marked middle) : (front ++ middle :: back).takeWhile (fun one => ¬ marked one) = front := by
    rw [List.takeWhile_append_of_pos fun one member => decide_eq_true (clear one member),
      List.takeWhile_cons_of_neg (by simpa using marks), List.append_nil]
  have fronts : first = second := by
    rw [← cut rest unmarked here, same, cut more unmarked' there]
  subst fronts
  exact ⟨rfl, List.cons.inj (List.append_cancel_left same)⟩

theorem intercalate_unbroken {texts : List (List Char)} (unbroken : ∀ text ∈ texts, '\n' ∉ text) :
    '\n' ∉ [','].intercalate texts := by
  induction texts with
  | nil => exact List.not_mem_nil
  | cons text rest inductionHypothesis =>
      obtain ⟨first, others⟩ := List.forall_mem_cons.mp unbroken
      cases rest with
      | nil => simpa using first
      | cons next more =>
          rw [List.intercalate_cons_cons]
          intro member
          rcases List.mem_append.mp member with front | later
          · rcases List.mem_append.mp front with inside | comma
            · exact first inside
            · cases List.mem_singleton.mp comma
          · exact inductionHypothesis others later

end Text

section Unambiguous

theorem method_unbroken (method : Method) : '\n' ∉ method.asStr.map Char.toUpper := by
  cases method <;> decide

theorem method_inj {first second : Method} (same : first.asStr.map Char.toUpper = second.asStr.map Char.toUpper) :
    first = second := by
  cases first <;> cases second <;> first | rfl | exact absurd same (by decide)

/-- Values that are grouped are values of the query. -/
theorem groupValue_mem {grouped : List (List Char × List (List Char))} {param : List Char × List Char}
    {property : List Char → Prop} (key : property param.1) (value : property param.2)
    (before : ∀ group ∈ grouped, property group.1 ∧ ∀ text ∈ group.2, property text) :
    ∀ group ∈ groupValue grouped param, property group.1 ∧ ∀ text ∈ group.2, property text := by
  have single : ∀ text ∈ [param.2], property text := by
    intro text member
    rw [List.mem_singleton.mp member]
    exact value
  intro group member
  unfold groupValue at member
  split at member
  · rw [List.mem_singleton.mp member]
    exact ⟨key, single⟩
  · rename_i last found
    split at member
    · rcases List.mem_append.mp member with kept | new
      · exact before group (List.dropLast_subset _ kept)
      · obtain ⟨known, texts⟩ := before last (List.mem_of_getLast? found)
        rw [List.mem_singleton.mp new]
        refine ⟨known, fun text inside => ?_⟩
        rcases List.mem_append.mp inside with old | added
        · exact texts text old
        · exact single text added
    · rcases List.mem_append.mp member with kept | new
      · exact before group kept
      · rw [List.mem_singleton.mp new]
        exact ⟨key, single⟩

variable [CaseLib] {policy : SharedKeyPolicy} {first second request : Request}

/-- Nothing that is signed has a line break, and no name of a header has a colon. -/
structure SingleLine (request : Request) : Prop where
  path : '\n' ∉ request.path
  values : ∀ entry ∈ request.headers.entries, '\n' ∉ entry.2
  names : ∀ entry ∈ request.headers.entries, '\n' ∉ entry.1 ∧ ':' ∉ entry.1
  query : ∀ pair ∈ request.query, '\n' ∉ pair.1 ∧ '\n' ∉ pair.2

/-- The lines of the headers of the storage service; without any there is an empty line. -/
def headerLines (headers : Headers) : List (List Char) :=
  if msHeaders headers = [] then [[]] else (msHeaders headers).map fun entry => entry.1 ++ ':' :: entry.2

def resourceLines (policy : SharedKeyPolicy) (request : Request) : List (List Char) :=
  ('/' :: (policy.accountName ++ request.path)) :: (groupedQuery request.query).map queryLine

theorem mem_msHeaders {headers : Headers} {signed : List Char × List Char} (member : signed ∈ msHeaders headers) :
    ∃ entry ∈ headers.entries, signed = (entry.1, trimBoth FileCacheBackend.isWhitespace entry.2) ∧
      msPrefix <+: entry.1 := by
  rw [msHeaders_eq, (sortByName_entries _).mem_iff] at member
  obtain ⟨entry, inside, found⟩ := List.mem_filterMap.mp member
  exact ⟨entry, inside, msEntry_some inside found⟩

theorem headerLines_plain (plain : SingleLine request) : ∀ line ∈ headerLines request.headers, '\n' ∉ line := by
  intro line member
  unfold headerLines at member
  split at member
  · rw [List.mem_singleton.mp member]
    exact List.not_mem_nil
  · obtain ⟨signed, inside, rfl⟩ := List.mem_map.mp member
    obtain ⟨entry, there, rfl, _⟩ := mem_msHeaders inside
    intro broken
    rcases List.mem_append.mp broken with name | value
    · exact (plain.names entry there).1 name
    · rcases List.mem_cons.mp value with colon | value
      · cases colon
      · exact plain.values entry there (mem_of_mem_trimBoth value)

theorem groupedQuery_plain (plain : SingleLine request) :
    ∀ group ∈ groupedQuery request.query, '\n' ∉ group.1 ∧ ∀ text ∈ group.2, '\n' ∉ text := by
  have params : ∀ param ∈ sortByName (request.query.map fun pair => (toLowercase pair.1, pair.2)),
      '\n' ∉ param.1 ∧ '\n' ∉ param.2 := by
    intro param member
    rw [(sortByName_entries _).mem_iff] at member
    obtain ⟨pair, inside, rfl⟩ := List.mem_map.mp member
    exact ⟨unbroken _ (plain.query pair inside).1, (plain.query pair inside).2⟩
  have folded : ∀ (rest : List (List Char × List Char)) (grouped : List (List Char × List (List Char))),
      (∀ param ∈ rest, '\n' ∉ param.1 ∧ '\n' ∉ param.2) →
      (∀ group ∈ grouped, '\n' ∉ group.1 ∧ ∀ text ∈ group.2, '\n' ∉ text) →
      ∀ group ∈ rest.foldl groupValue grouped, '\n' ∉ group.1 ∧ ∀ text ∈ group.2, '\n' ∉ text := by
    intro rest
    induction rest with
    | nil => exact fun _ _ before => before
    | cons param rest inductionHypothesis =>
        intro grouped params before
        obtain ⟨head, tail⟩ := List.forall_mem_cons.mp params
        exact inductionHypothesis _ tail
          (@groupValue_mem grouped param (fun text => '\n' ∉ text) head.1 head.2 before)
  exact folded _ [] params fun _ member => absurd member List.not_mem_nil

theorem canonicalizedResource_eq (policy : SharedKeyPolicy) (request : Request) :
    canonicalizedResource policy.accountName request.path request.query = joinLines (resourceLines policy request) := by
  have folded (groups : List (List Char × List (List Char))) (front : List Char) :
      groups.foldl (fun result group => result ++ '\n' :: queryLine group) front =
        joinLines (front :: groups.map queryLine) := by
    induction groups generalizing front with
    | nil => simp [joinLines]
    | cons group rest inductionHypothesis =>
        rw [List.foldl_cons, inductionHypothesis, List.map_cons]
        unfold joinLines
        cases rest with
        | nil => simp
        | cons next more => simp [List.intercalate_cons_cons]
  exact folded _ _

theorem resourceLines_plain (account : '\n' ∉ policy.accountName) (plain : SingleLine request) :
    ∀ line ∈ resourceLines policy request, '\n' ∉ line := by
  intro line member
  rcases List.mem_cons.mp member with first | later
  · rw [first]
    intro broken
    rcases List.mem_cons.mp broken with slash | inside
    · cases slash
    · rcases List.mem_append.mp inside with name | path
      · exact account name
      · exact plain.path path
  · obtain ⟨group, inside, rfl⟩ := List.mem_map.mp later
    obtain ⟨key, values⟩ := groupedQuery_plain plain group inside
    intro broken
    rcases List.mem_append.mp broken with name | value
    · exact key name
    · rcases List.mem_cons.mp value with colon | text
      · cases colon
      · exact intercalate_unbroken values text

theorem get_unbroken (plain : SingleLine request) (name : String) : '\n' ∉ (request.headers.get name).getD [] := by
  cases found : request.headers.get name with
  | none => exact List.not_mem_nil
  | some value => exact plain.values _ (get_eq_some.mp found)

theorem standardHeaders_plain (plain : SingleLine request) :
    ∀ line ∈ standardHeaders request.headers, '\n' ∉ line := by
  have length : '\n' ∉ contentLength request.headers := by
    unfold contentLength
    dsimp only
    split
    · exact List.not_mem_nil
    · exact get_unbroken plain _
  simp only [standardHeaders, List.forall_mem_cons]
  exact ⟨get_unbroken plain _, get_unbroken plain _, length, get_unbroken plain _, get_unbroken plain _,
    get_unbroken plain _, get_unbroken plain _, get_unbroken plain _, get_unbroken plain _, get_unbroken plain _,
    get_unbroken plain _, fun _ member => absurd member List.not_mem_nil⟩

theorem fields_canonicalizedHeaders (plain : SingleLine request) :
    fields '\n' (canonicalizedHeaders request.headers) = headerLines request.headers := by
  have unbroken := headerLines_plain plain
  unfold canonicalizedHeaders
  unfold headerLines at unbroken ⊢
  cases signed : msHeaders request.headers with
  | nil => rfl
  | cons entry rest =>
      rw [signed, if_neg (List.cons_ne_nil _ _)] at unbroken
      rw [if_neg (List.cons_ne_nil _ _), List.map_cons, fields_joinLines]
      exact flatMap_fields_plain unbroken

/-- The lines of the text that is signed. -/
theorem fields_stringToSign (account : '\n' ∉ policy.accountName) (plain : SingleLine request) :
    fields '\n' (policy.stringToSign request) = request.method.asStr.map Char.toUpper :: (standardHeaders request.headers ++
      (headerLines request.headers ++ resourceLines policy request)) := by
  have resource : fields '\n' (joinLines (resourceLines policy request)) = resourceLines policy request := by
    rw [resourceLines, fields_joinLines]
    exact flatMap_fields_plain (resourceLines_plain account plain)
  rw [SharedKeyPolicy.stringToSign, fields_joinLines, List.flatMap_cons,
    fields_plain (method_unbroken _), List.flatMap_append,
    flatMap_fields_plain (standardHeaders_plain plain), List.flatMap_cons, List.flatMap_cons, List.flatMap_nil,
    List.append_nil, fields_canonicalizedHeaders plain, canonicalizedResource_eq, resource]
  rfl

/-- A line of a header is not the first line of a resource. -/
theorem headerLines_relative (headers : Headers) : ∀ line ∈ headerLines headers, ¬ line.head? = some '/' := by
  intro line member
  unfold headerLines at member
  split at member
  · rw [List.mem_singleton.mp member]
    intro slash
    cases slash
  · obtain ⟨signed, inside, rfl⟩ := List.mem_map.mp member
    obtain ⟨entry, _, rfl, rest, starts⟩ := mem_msHeaders inside
    have front (more : List Char) : (msPrefix ++ rest ++ more).head? = some 'x' := rfl
    dsimp only
    rw [← starts, front]
    decide

/-- The lines of the headers tell the headers. -/
theorem headerLines_inj {headers other : Headers} (plain : ∀ entry ∈ headers.entries, ':' ∉ entry.1)
    (plain' : ∀ entry ∈ other.entries, ':' ∉ entry.1) (same : headerLines headers = headerLines other) :
    msHeaders headers = msHeaders other := by
  have read {headers : Headers} (plain : ∀ entry ∈ headers.entries, ':' ∉ entry.1) :
      (headerLines headers).filterMap (splitOnce ':') = msHeaders headers := by
    unfold headerLines
    split
    · rename_i none
      rw [none]
      rfl
    · rw [List.filterMap_map]
      have each : ∀ signed ∈ msHeaders headers,
          (splitOnce ':' ∘ fun entry : List Char × List Char => entry.1 ++ ':' :: entry.2) signed = some signed := by
        intro signed member
        obtain ⟨entry, inside, rfl, _⟩ := mem_msHeaders member
        exact splitOnce_append _ (plain entry inside)
      rw [List.filterMap_congr each, List.filterMap_some]
  rw [← read plain, same, read plain']

/-- Requests that are signed alike have the same method, headers and path, and the same lines of the query. -/
theorem stringToSign_inj (policy : SharedKeyPolicy) (account : '\n' ∉ policy.accountName) (plain : SingleLine first)
    (plain' : SingleLine second) (same : policy.stringToSign first = policy.stringToSign second) :
    first.method = second.method ∧
      standardHeaders first.headers = standardHeaders second.headers ∧
      msHeaders first.headers = msHeaders second.headers ∧ first.path = second.path ∧
      (groupedQuery first.query).map queryLine = (groupedQuery second.query).map queryLine := by
  have lines := (fields_stringToSign account plain).symm.trans
    ((congrArg (fields '\n') same).trans (fields_stringToSign account plain'))
  obtain ⟨method, rest⟩ := List.cons.inj lines
  obtain ⟨standard, signed⟩ := List.append_inj rest rfl
  have marked := @append_marked _ (fun line : List Char => line.head? = some '/') _ _ _ _ _ _ _
    (headerLines_relative first.headers) (headerLines_relative second.headers) rfl rfl signed
  obtain ⟨headers, resource, query⟩ := marked
  refine ⟨method_inj method, standard, ?_, ?_, query⟩
  · exact headerLines_inj (fun entry member => (plain.names entry member).2)
      (fun entry member => (plain'.names entry member).2) headers
  · exact List.append_cancel_left (List.cons.inj resource).2

end Unambiguous

section Sample

attribute [local instance] asciiCase

theorem rangeRequest_plain {headers : Headers} (values : ∀ entry ∈ headers.entries, '\n' ∉ entry.2)
    (names : ∀ entry ∈ headers.entries, '\n' ∉ entry.1 ∧ ':' ∉ entry.1) : SingleLine (rangeRequest headers) where
  path := show '\n' ∉ "/disks/a".toList by decide
  values := values
  names := names
  query := show ∀ pair ∈ [("timeout".toList, "30".toList)], '\n' ∉ pair.1 ∧ '\n' ∉ pair.2 by decide

/-- A request whose headers are iterated in another order is signed alike, and has the same headers. -/
theorem stringToSign_inj_reversed : msHeaders rangeHeaders = msHeaders reversedHeaders :=
  (stringToSign_inj sampleKey (by decide) (rangeRequest_plain (by decide) (by decide))
    (rangeRequest_plain (by decide) (by decide)) (@Same.stringToSign _ (rangeRequest rangeHeaders)
      (rangeRequest reversedHeaders) sampleKey ⟨rfl, rfl, rfl, .swap _ _ _⟩)).2.2.1

end Sample
end RequestSigning
end UblkAzblob
