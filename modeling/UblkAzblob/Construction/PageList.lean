import Mathlib.Data.List.Sort
import UblkAzblob.Construction.FileCacheOpen
import UblkAzblob.Foundation.Markup
import UblkAzblob.Foundation.TextTable

namespace UblkAzblob
open Storage

section Numbers

/-- The standard library's message for digits that are no number below the limit. -/
def parseIntMessage (limit : Nat) : Nat → List Char → String
  | _, [] => "cannot parse integer from empty string"
  | value, char :: rest =>
      let next := value * 10 + (char.toNat - '0'.toNat)
      if ¬ char.isDigit then "invalid digit found in string"
      else if limit ≤ next then "number too large to fit in target type"
      else parseIntMessage limit next rest

/-- One sign may stand before the digits. -/
def parseIntError (limit : Nat) : List Char → String
  | ['+'] => "invalid digit found in string"
  | '+' :: digits => parseIntMessage limit 0 digits
  | text => parseIntMessage limit 0 text

/-- The unsigned number between the first tags of this name. -/
def extractTagU64 (segment : List Char) (tag : String) : Except Error Nat :=
  match cutAt s!"<{tag}>".toList segment with
  | none => .error [s!"missing <{tag}>"]
  | some (_, after) => match cutAt s!"</{tag}>".toList after with
    | none => .error [s!"missing </{tag}>"]
    | some (content, _) =>
        let text := trimBoth FileCacheBackend.isWhitespace content
        match parseUnsigned (2 ^ 64) text with
        | some value => .ok value
        | none => .error [s!"parse <{tag}> value", parseIntError (2 ^ 64) text]

end Numbers

section Ranges

/-- The ranges in the order of their offsets; the sort is stable. -/
def sortRanges (ranges : List (Nat × Nat)) : List (Nat × Nat) :=
  ranges.insertionSort fun first second => first.1 ≤ second.1

/-- The start and end between the tags of an element give a range; its length wraps at 64 bits. -/
def parsePageRange (segment : List Char) : Except Error (Nat × Nat) :=
  match extractTagU64 segment "Start" with
  | .error error => .error ("missing <Start> in <PageRange>" :: error)
  | .ok start => match extractTagU64 segment "End" with
    | .error error => .error ("missing <End> in <PageRange>" :: error)
    | .ok stop =>
        if stop < start then .error [s!"invalid page range: End ({stop}) < Start ({start})"]
        else .ok (start, (stop - start + 1) % 2 ^ 64)

/-- What is left of a body, and the ranges that were found before it. -/
structure RangeScan where
  rest : List Char
  ranges : List (Nat × Nat)

/-- One round of the scan takes the next element. -/
def scanRound : Action RangeScan (Option (List (Nat × Nat))) := fun scan =>
  match cutAt "<PageRange>".toList scan.rest with
  | none => (.ok (some (sortRanges scan.ranges)), scan)
  | some (_, after) => match cutAt "</PageRange>".toList after with
    | none => (.error ["unterminated <PageRange> element in Get Page Ranges response"], scan)
    | some (segment, rest) => match parsePageRange segment with
      | .error error => (.error error, scan)
      | .ok range => (.ok none, ⟨rest, scan.ranges ++ [range]⟩)

/-- Every round makes the rest shorter. -/
def parsePageRanges (body : List Char) : Except Error (List (Nat × Nat)) :=
  (Action.repeatUntil (fun scan => scan.rest.length) scanRound ⟨body, []⟩).1

/-- A marker that is empty after trimming means the last page. -/
def parseNextMarker (body : List Char) : Option (List Char) :=
  (cutAt "<NextMarker>".toList body).bind fun opened =>
    (cutAt "</NextMarker>".toList opened.2).bind fun closed =>
      let marker := trimBoth FileCacheBackend.isWhitespace closed.1
      if marker = [] then none else some marker

end Ranges

section Listing

/-- The backend of one blob; without the pipeline the listing is not available. -/
structure PageListClient where
  blobName : String
  snapshot : Option String
  attached : Bool

/-- The service answers with a status and a body, which may not be text. -/
structure PageListAnswer where
  status : Nat
  body : Except Error (List Char)

/-- The answers that the service will give, the queries that it got, and the variables of the loop. -/
structure PageListCalls where
  answers : List (Except Error PageListAnswer)
  sent : List (List (String × String))
  marker : Option String
  ranges : List (Nat × Nat)

namespace PageListClient

def query (client : PageListClient) (marker : Option String) : List (String × String) :=
  ("comp", "pagelist") :: (client.snapshot.toList.map fun snapshot => ("snapshot", snapshot)) ++
    marker.toList.map fun marker => ("marker", marker)

/-- One round of the loop sends one query. -/
def listRound (client : PageListClient) : Action PageListCalls (Option (List (Nat × Nat))) := fun calls =>
  let asked := { calls with
    answers := calls.answers.tail
    sent := calls.sent ++ [client.query calls.marker] }
  match calls.answers.head?.getD (.error ["the service does not answer"]) with
  | .error error => (.error (s!"Get Page Ranges for blob '{client.blobName}'" :: error), asked)
  | .ok answer =>
      if ¬ (200 ≤ answer.status ∧ answer.status < 300) then
        let body := String.ofList (answer.body.toOption.getD [])
        (.error [s!"Get Page Ranges for blob '{client.blobName}' returned HTTP {answer.status}: {body}"], asked)
      else match answer.body with
        | .error error => (.error (s!"read Get Page Ranges body for blob '{client.blobName}'" :: error), asked)
        | .ok body => match parsePageRanges body with
          | .error error => (.error (s!"parse Get Page Ranges body for blob '{client.blobName}'" :: error), asked)
          | .ok batch =>
              let ranges := calls.ranges ++ batch
              match parseNextMarker body with
              | some marker => (.ok none, { asked with marker := some (String.ofList marker), ranges })
              | none => (.ok (some (sortRanges ranges)), { asked with ranges })

/-- Every round takes an answer, so the answers bound the rounds. -/
def listPageRanges (client : PageListClient) : Action PageListCalls (Option (List (Nat × Nat))) := fun calls =>
  if client.attached then
    let outcome := Action.repeatUntil (fun calls => calls.answers.length) client.listRound
      { calls with marker := none, ranges := [] }
    (outcome.1.map some, outcome.2)
  else (.ok none, calls)

end PageListClient
end Listing
end UblkAzblob
