import Countersign.Client.Prepare
import Countersign.Proofs.Discretion
import Countersign.Proofs.Scope
import Countersign.Proofs.WireText

/-! How a failure leaves the gateway: in an envelope that says what went wrong. Only a request that is
lost before there is anybody to answer it comes back without one. -/
namespace Countersign.Gateway

/-- A body that reads as an envelope. Code and name are those of the status, and a client shows the
message with the name. -/
def Enveloped (response : Response) : Prop :=
  ∃ message, Envelope.ofBytes (bytesOf response.body) =
      .ok ⟨(Refusal.callStatus response.status).1, (Refusal.callStatus response.status).2, message⟩ ∧
    Client.reasonOf (bytesOf response.body) =
      message ++ " (" ++ (Refusal.callStatus response.status).2 ++ ")"

theorem enveloped_refused (refusal : Refusal) : Enveloped (.refused refusal) := by
  have read : Envelope.ofBytes (bytesOf (Response.refused refusal).body) = .ok refusal.envelope :=
    refusal.envelope.reads_toJson.whole
  refine ⟨refusal.message, read, ?_⟩
  rw [Client.reasonOf, read]
  rfl

theorem enveloped_shaped_iff {method : String} (whole : method ≠ "HEAD") (place : Place)
    (response : Response) : Enveloped (shaped place method response) ↔ Enveloped response := by
  rw [shaped, if_neg whole]
  split <;> rfl

/-- Without a body there is no envelope. -/
theorem not_enveloped_of_empty {response : Response} (empty : response.body = "") :
    ¬ Enveloped response := by
  rintro ⟨message, read, _⟩
  rw [empty] at read
  cases read

def unreadable : Response := .text 400 "Invalid URL: Invalid UTF-8 in `exchange`"

theorem not_enveloped_unreadable : ¬ Enveloped unreadable := by
  rintro ⟨message, read, _⟩
  cases read

/-- A request that finds nobody to answer it, and what it gets: it leads nowhere, or comes by a method
that is not taken there, or names its exchange by bytes that are no text. At an exchange the guard comes
first. -/
inductive Astray (g : Gateway) (r : Request) : Response → Prop
  | nowhere (place : Place.ofPath? r.path = none) : Astray g r (.empty 404)
  | health (place : Place.ofPath? r.path = some .health)
      (method : Place.health.allows r.method = false) :
      Astray g r { Response.empty 405 with allow := some Place.health.allowed }
  | method {segment : String} {route : Route} (passed : Passed g r segment route)
      (method : (Place.exchange segment route).allows r.method = false) :
      Astray g r { Response.empty 405 with allow := some (Place.exchange segment route).allowed }
  | unreadable {segment : String} {route : Route} (passed : Passed g r segment route)
      (method : (Place.exchange segment route).allows r.method = true)
      (noText : exchangeId? segment = none) : Astray g r unreadable

variable {g : Gateway} {r : Request}

/-- What was done, or an envelope that says why not. -/
def Told (response : Response) : Prop :=
  (∃ value, response = .json 200 value) ∨ ∃ refusal, response = .refused refusal

theorem told_run (exchange : String) (p : Plan) : Told (g.run exchange p).response := by
  unfold run
  dsimp only
  split
  · exact .inr ⟨_, rfl⟩
  · split
    · exact .inl ⟨_, rfl⟩
    · exact .inr ⟨_, rfl⟩

theorem told_carryOut {segment exchange : String} (read : exchangeId? segment = some exchange)
    (route : Route) : Told (g.carryOut segment route r).response := by
  unfold carryOut
  rw [read]
  dsimp only
  split
  · exact .inr ⟨_, rfl⟩
  · exact told_run exchange _

theorem Passed.told_or_astray {segment : String} {route : Route} (passed : Passed g r segment route)
    (whole : r.method ≠ "HEAD") (now : Int) :
    (∃ response, (g.serve now r).response = shaped (.exchange segment route) r.method response ∧
      Told response) ∨ Astray g r (g.serve now r).response := by
  obtain ⟨served, shape, _, answered⟩ := passed.serve_eq now
  rw [answered, shape]
  cases method : (Place.exchange segment route).allows r.method with
  | false =>
    right
    rw [shaped, method]
    exact .method passed method
  | true =>
    rw [if_pos rfl]
    cases read : exchangeId? segment with
    | some exchange => exact .inl ⟨_, rfl, told_carryOut read route⟩
    | none =>
      right
      rw [shaped_of_allows method whole, carryOut, read]
      exact .unreadable passed method read

/-- What is answered to a request: what becomes of it, or what is due to one that is astray. -/
theorem told_or_astray (whole : r.method ≠ "HEAD") (now : Int) :
    (∃ place response, (g.serve now r).response = shaped place r.method response ∧ Told response) ∨
      Astray g r (g.serve now r).response := by
  cases place : Place.ofPath? r.path with
  | none =>
    right
    rw [serve, place]
    exact .nowhere place
  | some there =>
    cases there with
    | health =>
      rw [serve, place]
      dsimp only [atPlace]
      cases method : Place.health.allows r.method with
      | true => exact .inl ⟨_, _, rfl, .inl ⟨_, rfl⟩⟩
      | false =>
        right
        rw [shaped, method]
        exact .health place method
    | exchange segment route =>
      refine Or.imp_left (fun told => ⟨.exchange segment route, told⟩) ?_
      by_cases large : maxBody < r.body.length
      · left
        refine ⟨.refused tooLarge, ?_, .inr ⟨_, rfl⟩⟩
        rw [serve, place]
        dsimp only [atPlace]
        rw [guarded, if_pos large]
      · cases granted : g.policy.grant route.kind r with
        | error fault =>
          left
          refine ⟨.refused (refusalOf fault), ?_, .inr ⟨_, rfl⟩⟩
          rw [response_of_grant_eq_error now place granted, if_neg large]
        | ok credential =>
          have passed : Passed g r segment route := ⟨place, Nat.le_of_not_lt large, _, granted⟩
          exact passed.told_or_astray whole now

namespace Astray

variable {response : Response}

theorem served (astray : Astray g r response) (whole : r.method ≠ "HEAD") (now : Int) :
    (g.serve now r).response = response ∧ (g.serve now r).calls = [] := by
  cases astray with
  | nowhere place =>
    rw [serve, place]
    exact ⟨rfl, rfl⟩
  | health place method =>
    rw [serve, place]
    dsimp only [atPlace]
    rw [shaped, method]
    exact ⟨rfl, rfl⟩
  | method passed method =>
    obtain ⟨served, shape, calls, answered⟩ := passed.serve_eq now
    rw [calls, answered, shape, shaped, method]
    exact ⟨rfl, rfl⟩
  | unreadable passed method noText =>
    obtain ⟨served, shape, calls, answered⟩ := passed.serve_eq now
    rw [calls, answered, shape, shaped_of_allows method whole, if_pos method, carryOut, noText]
    exact ⟨rfl, rfl⟩

theorem not_enveloped (astray : Astray g r response) : ¬ Enveloped response := by
  cases astray with
  | nowhere => exact not_enveloped_of_empty rfl
  | health => exact not_enveloped_of_empty rfl
  | method => exact not_enveloped_of_empty rfl
  | unreadable => exact not_enveloped_unreadable

end Astray

/-- A failure leaves the gateway in an envelope just if the request was not astray. -/
theorem enveloped_or_astray (g : Gateway) (now : Int) (r : Request) (whole : r.method ≠ "HEAD")
    (failed : Status.isSuccess (g.serve now r).response.status = false) :
    (Enveloped (g.serve now r).response ↔ ∀ response, ¬ Astray g r response) ∧
      ∀ response, Astray g r response →
        (g.serve now r).response = response ∧ (g.serve now r).calls = [] := by
  refine ⟨⟨?_, ?_⟩, fun _ astray => astray.served whole now⟩
  · intro enveloped response astray
    rw [(astray.served whole now).1] at enveloped
    exact astray.not_enveloped enveloped
  · intro found
    obtain ⟨place, response, answered, told⟩ | astray := told_or_astray (g := g) whole now
    · rw [answered, enveloped_shaped_iff whole]
      obtain ⟨value, rfl⟩ | ⟨refusal, rfl⟩ := told
      · rw [answered, status_shaped] at failed
        cases failed
      · exact enveloped_refused refusal
    · exact absurd astray (found _)

/-- A limit of zero is told to the client by its name. -/
theorem enveloped_limit :
    (readerGateway.serve 0 { withToken "GET" "withdrawal-history" with query := "limit=0" }).response =
        .refused ⟨400, "invalid limit parameter: must be greater than 0"⟩ ∧
      Enveloped (readerGateway.serve 0
        { withToken "GET" "withdrawal-history" with query := "limit=0" }).response := by
  have response : (readerGateway.serve 0
      { withToken "GET" "withdrawal-history" with query := "limit=0" }).response =
        .refused ⟨400, "invalid limit parameter: must be greater than 0"⟩ := by decide +kernel
  have failed : Status.isSuccess (readerGateway.serve 0
      { withToken "GET" "withdrawal-history" with query := "limit=0" }).response.status = false := by
    rw [response]
    rfl
  have told := enveloped_or_astray readerGateway 0 _ (by decide) failed
  refine ⟨response, told.1.2 fun bare astray => ?_⟩
  have type : some "application/json" = bare.contentType := by
    rw [← (told.2 bare astray).1, response]
    rfl
  cases astray with
  | nowhere => cases type
  | health => cases type
  | method => cases type
  | unreadable => exact absurd type (by decide)

/-- A request for this path with nothing in it. -/
def plainly (method path : String) : Request := ⟨method, path, "", Headers.empty, []⟩

/-- An unknown path, a wrong method and an exchange that is no text: the client learns the status, and
of two of them nothing else. -/
theorem bare_of_astray :
    (strange.serve 0 (plainly "GET" "/v1/nowhere")).response = .empty 404 ∧
      (strange.serve 0 (plainly "POST" "/health")).response =
        { Response.empty 405 with allow := some "GET,HEAD" } ∧
      (strange.serve 0 (plainly "GET" "/v1/exchanges/%FF/assets")).response = unreadable ∧
      ¬ Enveloped (.empty 404) ∧ ¬ Enveloped unreadable ∧
      Client.reasonOf (bytesOf (Response.empty 404).body) = "Unknown error" := by
  refine ⟨by decide, by decide, by decide, not_enveloped_of_empty rfl, not_enveloped_unreadable, ?_⟩
  decide

end Countersign.Gateway
