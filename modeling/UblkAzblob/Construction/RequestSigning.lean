import Mathlib.Data.Char
import Mathlib.Data.List.Lex
import Mathlib.Data.List.Sort
import UblkAzblob.Construction.FileCacheOpen
import UblkAzblob.Foundation.Interleaving
import UblkAzblob.Foundation.TextTable

namespace UblkAzblob
open Storage

namespace RequestSigning

/-- The lower case of texts; a text of ASCII letters is lowered letter by letter, and no letter becomes a line break. -/
class CaseLib where
  toLowercase : List Char → List Char
  ascii : ∀ text, (∀ char ∈ text, char.toNat < 128) → toLowercase text = text.map Char.toLower
  unbroken : ∀ text, '\n' ∉ text → '\n' ∉ toLowercase text

open CaseLib

variable [CaseLib]

section Request

/-- The headers of a request, in the order in which their map happens to be iterated. -/
structure Headers where
  entries : List (List Char × List Char)
  distinct : (entries.map Prod.fst).Nodup
  lower : ∀ entry ∈ entries, toLowercase entry.1 = entry.1

namespace Headers

def get (headers : Headers) (name : String) : Option (List Char) :=
  (headers.entries.find? fun entry => entry.1 = name.toList).map Prod.snd

/-- The header replaces one of the same name. -/
def insert (headers : Headers) (name : String) (value : List Char)
    (lowered : toLowercase name.toList = name.toList) : Headers where
  entries := headers.entries.filter (fun entry => entry.1 ≠ name.toList) ++ [(name.toList, value)]
  distinct := by
    rw [List.map_append, List.nodup_append]
    refine ⟨headers.distinct.sublist (List.filter_sublist.map _), by simp, fun first inside second last => ?_⟩
    obtain ⟨entry, member, rfl⟩ := List.mem_map.mp inside
    rw [List.map_cons, List.map_nil, List.mem_singleton] at last
    rw [last]
    simpa using (List.mem_filter.mp member).2
  lower := by
    intro entry member
    rcases List.mem_append.mp member with kept | new
    · exact headers.lower entry (List.mem_of_mem_filter kept)
    · rw [List.mem_singleton.mp new]
      exact lowered

end Headers

inductive Method where
  | delete
  | get
  | head
  | patch
  | post
  | put
  deriving DecidableEq

def Method.asStr : Method → List Char
  | .delete => "DELETE".toList
  | .get => "GET".toList
  | .head => "HEAD".toList
  | .patch => "PATCH".toList
  | .post => "POST".toList
  | .put => "PUT".toList

structure Request where
  method : Method
  path : List Char
  /-- The decoded pairs of the query, in their order. -/
  query : List (List Char × List Char)
  headers : Headers

end Request

section SharedKey

/-- The policy of an account; the code of a text is computed with its key. -/
structure SharedKeyPolicy where
  accountName : List Char
  mac : List Char → List Char

def msPrefix : List Char := "x-ms-".toList

def joinLines (lines : List (List Char)) : List Char := ['\n'].intercalate lines

/-- Entries with one name stay in their order. -/
def sortByName (entries : List (List Char × List Char)) : List (List Char × List Char) :=
  entries.insertionSort fun first second => first.1 ≤ second.1

/-- The headers of the storage service, in the order of their names. -/
def msHeaders (headers : Headers) : List (List Char × List Char) :=
  sortByName (headers.entries.filterMap fun entry =>
    let name := toLowercase entry.1
    if msPrefix <+: name then some (name, trimBoth FileCacheBackend.isWhitespace entry.2) else none)

def canonicalizedHeaders (headers : Headers) : List Char :=
  joinLines ((msHeaders headers).map fun entry => entry.1 ++ ':' :: entry.2)

/-- A value joins the ones of the key before it. -/
def groupValue (grouped : List (List Char × List (List Char))) (param : List Char × List Char) :
    List (List Char × List (List Char)) :=
  match grouped.getLast? with
  | none => [(param.1, [param.2])]
  | some last =>
      if last.1 = param.1 then grouped.dropLast ++ [(last.1, last.2 ++ [param.2])]
      else grouped ++ [(param.1, [param.2])]

/-- The parameters of a query, in the order of their keys. -/
def groupedQuery (query : List (List Char × List Char)) : List (List Char × List (List Char)) :=
  (sortByName (query.map fun pair => (toLowercase pair.1, pair.2))).foldl groupValue []

def queryLine (group : List Char × List (List Char)) : List Char := group.1 ++ ':' :: [','].intercalate group.2

def canonicalizedResource (account path : List Char) (query : List (List Char × List Char)) : List Char :=
  (groupedQuery query).foldl (fun result group => result ++ '\n' :: queryLine group) ('/' :: (account ++ path))

/-- A length of zero is left out. -/
def contentLength (headers : Headers) : List Char :=
  let length := (headers.get "content-length").getD []
  if length = ['0'] ∨ length = [] then [] else length

/-- The headers whose values have lines of their own. -/
def standardHeaders (headers : Headers) : List (List Char) :=
  [(headers.get "content-encoding").getD [], (headers.get "content-language").getD [], contentLength headers,
    (headers.get "content-md5").getD [], (headers.get "content-type").getD [], (headers.get "date").getD [],
    (headers.get "if-modified-since").getD [], (headers.get "if-match").getD [], (headers.get "if-none-match").getD [],
    (headers.get "if-unmodified-since").getD [], (headers.get "range").getD []]

theorem toLowercase_lower {text : List Char} (ascii : (text.all fun char => char.toNat < 128) = true)
    (lower : text.map Char.toLower = text) : toLowercase text = text :=
  (CaseLib.ascii text fun char member => of_decide_eq_true (List.all_eq_true.mp ascii char member)).trans lower

theorem date_lower : toLowercase "x-ms-date".toList = "x-ms-date".toList := toLowercase_lower (by decide) (by decide)

theorem authorization_lower : toLowercase "authorization".toList = "authorization".toList :=
  toLowercase_lower (by decide) (by decide)

namespace SharedKeyPolicy

def stringToSign (policy : SharedKeyPolicy) (request : Request) : List Char :=
  joinLines (request.method.asStr.map Char.toUpper :: (standardHeaders request.headers ++
    [canonicalizedHeaders request.headers, canonicalizedResource policy.accountName request.path request.query]))

def sign (policy : SharedKeyPolicy) (request : Request) : List Char :=
  "SharedKey ".toList ++ policy.accountName ++ ':' :: policy.mac (policy.stringToSign request)

/-- A request that has no date gets one, and every attempt is signed. -/
def send (policy : SharedKeyPolicy) (now : List Char) (request : Request) : Request :=
  let dated := if (request.headers.get "x-ms-date").isNone
    then { request with headers := request.headers.insert "x-ms-date" now date_lower }
    else request
  { dated with headers := dated.headers.insert "authorization" (policy.sign dated) authorization_lower }

end SharedKeyPolicy
end SharedKey

section Attempts

/-- The pairs of a token join the query, except those whose keys are there already. -/
def sasSend (pairs : List (List Char × List Char)) (request : Request) : Request :=
  { request with query := request.query ++ pairs.filter fun pair => !(request.query.map Prod.fst).contains pair.1 }

/-- The policies that run at every attempt. -/
inductive Policy where
  | sharedKey (policy : SharedKeyPolicy)
  | sas (pairs : List (List Char × List Char))

def Policy.send (now : List Char) (request : Request) : Policy → Request
  | .sharedKey policy => policy.send now request
  | .sas pairs => sasSend pairs request

/-- The time of an attempt, and the order in which it iterates the headers. -/
structure Attempt where
  now : List Char
  headers : Headers

/-- A request that is sent over and over, and what was sent at each attempt. -/
structure Sending where
  request : Request
  sent : List Request

/-- An attempt goes on from the request that the one before has left. -/
def attempt (policy : Policy) (sending : Sending) (next : Attempt) : Option Sending :=
  if sending.request.headers.entries.Perm next.headers.entries then
    let request := policy.send next.now { sending.request with headers := next.headers }
    some ⟨request, sending.sent ++ [request]⟩
  else none

end Attempts
end RequestSigning
end UblkAzblob
