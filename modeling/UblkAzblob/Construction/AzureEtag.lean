import UblkAzblob.Foundation.Action
import UblkAzblob.Foundation.Interleaving

namespace UblkAzblob
open Storage

/-- One attempt of a `write` or `clear`; the service may apply it, as the mutation of some number, at any
time after it was sent. -/
structure PageRequest where
  call : Nat
  applied : Option Nat

/-- A call waits for the answer to its newest attempt. -/
inductive MutationPhase where
  | waiting (request : Nat)
  | done
  | failed
  deriving DecidableEq

/-- The calls of one backend on one blob; `serial` counts the mutations that the service has applied. -/
structure AzurePageBlobBackend where
  serial : Nat
  requests : List PageRequest
  calls : List MutationPhase
  lastEtag : Option String

inductive AzureEvent where
  | call
  | apply (request : Nat)
  | retry (call : Nat)
  | receive (request : Nat)
  | fail (call : Nat)
  deriving DecidableEq

namespace AzurePageBlobBackend

def connect (serial : Nat) : AzurePageBlobBackend := ⟨serial, [], [], none⟩

/-- The token of a mutating response is cached. -/
def recordEtag (etag : Option String) (backend : AzurePageBlobBackend) : AzurePageBlobBackend :=
  { backend with lastEtag := etag }

/-- The service gives the blob a new token with every mutation, and returns it in the response. -/
def step (token : Nat → String) (backend : AzurePageBlobBackend) :
    AzureEvent → Option AzurePageBlobBackend
  | .call => some { backend with
      requests := backend.requests ++ [⟨backend.calls.length, none⟩]
      calls := backend.calls ++ [.waiting backend.requests.length] }
  | .apply request => match backend.requests[request]? with
    | some ⟨call, none⟩ => some { backend with
        serial := backend.serial + 1
        requests := backend.requests.set request ⟨call, some (backend.serial + 1)⟩ }
    | _ => none
  | .retry call => match backend.calls[call]? with
    | some (.waiting _) => some { backend with
        requests := backend.requests ++ [⟨call, none⟩]
        calls := backend.calls.set call (.waiting backend.requests.length) }
    | _ => none
  | .receive request => match backend.requests[request]? with
    | some ⟨call, some number⟩ =>
        if backend.calls[call]? = some (.waiting request) then
          some ({ backend with calls := backend.calls.set call .done }.recordEtag (some (token number)))
        else none
    | _ => none
  | .fail call => match backend.calls[call]? with
    | some (.waiting _) => some { backend with calls := backend.calls.set call .failed }
    | _ => none

/-- The blob's current token. -/
def live (token : Nat → String) (backend : AzurePageBlobBackend) : String := token backend.serial

/-- A cached token is reused, else the blob's properties are read. -/
def etag (token : Nat → String) (backend : AzurePageBlobBackend) : Except Error (Option String) :=
  match backend.lastEtag with
  | some etag => .ok (some etag)
  | none => .ok (some (backend.live token))

end AzurePageBlobBackend
end UblkAzblob
