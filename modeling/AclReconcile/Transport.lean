import AclReconcile.Duration

/-!
# Connection options of the HTTP stores

Stores reached over HTTP take two options: a limit of connections per host, which when
positive bounds both the open and the idle connections, and whether to ask the server for
"100-continue" before sending a body. Asking sets the time to wait for that answer to one
second (the default) and wraps the transport; declining sets it to zero; leaving the option
unset keeps the default.

The wrapper adds the header "Expect: 100-continue" to a request that has a body and no
"Expect" header yet, on a copy of the request; every other request passes unchanged.
-/

namespace AclReconcile

/-- The connection options of an HTTP store. -/
structure ConnectionOptions where
  limit : Int := 0
  expectContinue : Option Bool := none
  deriving Inhabited

/-- The settings of the transport that options give. -/
structure TransportSettings where
  maxConnsPerHost : Nat
  maxIdleConnsPerHost : Nat
  expectContinueTimeout : Duration

/-- The transport settings: the defaults when there are no options. -/
def ConnectionOptions.settings : Option ConnectionOptions → TransportSettings
  | none => ⟨0, 0, Duration.second⟩
  | some o =>
    let limit := if o.limit > 0 then o.limit.toNat else 0
    let timeout := match o.expectContinue with
      | some false => ⟨0⟩
      | _ => Duration.second
    ⟨limit, limit, timeout⟩

/-- Whether the transport is wrapped to ask for "100-continue". -/
def ConnectionOptions.wrapped : Option ConnectionOptions → Bool
  | some { expectContinue := some true, .. } => true
  | _ => false

/-- The body of a request: none, the empty body, or some bytes. -/
inductive RequestBody where
  | absent
  | empty
  | bytes (content : String)

/-- An outgoing request, as far as the wrapper looks at it. -/
structure OutgoingRequest where
  method : String
  body : RequestBody
  /-- The "Expect" header, empty when there is none. -/
  expect : String

/-- The "Expect" header a request is sent with through the wrapper, and whether the request is
sent as it is (rather than as a copy with the header added). -/
def OutgoingRequest.throughWrapper (r : OutgoingRequest) : String × Bool :=
  match r.body with
  | .bytes content => if !content.isEmpty && r.expect.isEmpty then ("100-continue", false)
    else (r.expect, true)
  | _ => (r.expect, true)

end AclReconcile
