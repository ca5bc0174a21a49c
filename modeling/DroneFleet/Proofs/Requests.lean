import DroneFleet.Http.Service
import DroneFleet.Proofs.Atomicity
import DroneFleet.Proofs.Bodies
import DroneFleet.Proofs.Observers

/-!
# Requests as operations

A request either orders one operation on the fleet or changes nothing. An order is posted to one of
three paths, with a body of the right type, length and form; what is in the body is the drone and,
for a flight, the path and the zones. All of this is checked before the fleet is asked, so what is
wrong with a body is told in the same words whatever is in the fleet. One request has more to it
than its answer: after a handshake in due form its connection listens to the notices, which is
nothing to the drones and to the other observers.

* `Order`                        a drone, and an operation on it
* `Request.order?`               the order of a request, or the fault of its body
* `Service.Obeys`                an answer that is the outcome of one operation
* `Service.Follows`              a route that comes to the operation that is ordered
* `Request.Handshake`            a request in due form for a stream of notices
* `Service.Joins`                one more observer, and all else as it was
* `requests_refine_operations`   every request is an order that is carried out or refused, a fault
                                 that is told, or nothing to the fleet
-/

namespace DroneFleet.Http

open Fleet (Operation)

/-! ## orders -/

structure Order where
  id : String
  operation : Operation

namespace Order

def paths : List String := ["/connect", "/disconnect", "/flightpath"]

/-- what is read from a request that is posted to a path, if it is the path of a command -/
def reader? (path : List Char) : Option (Request → Except BodyFault Order) :=
  match String.ofList path with
  | "/connect" => some fun r => (r.decode DroneRequest.read).map fun q => ⟨q.id, .connect⟩
  | "/disconnect" => some fun r => (r.decode DroneRequest.read).map fun q => ⟨q.id, .disconnect⟩
  | "/flightpath" => some fun r => (r.decode FlightRequest.read).map fun q =>
    ⟨q.id, .submit q.path (Zones.ofJson q.zones)⟩
  | _ => none

theorem reader?_eq_none_iff (path : List Char) :
    reader? path = none ↔ String.ofList path ∉ paths := by
  unfold reader?
  split
  · next hp =>
    rw [hp]
    exact iff_of_false nofun (by decide)
  · next hp =>
    rw [hp]
    exact iff_of_false nofun (by decide)
  · next hp =>
    rw [hp]
    exact iff_of_false nofun (by decide)
  · next hc hd hf =>
    refine iff_of_true rfl fun listed => ?_
    rcases List.mem_cons.mp listed with h | listed
    · exact hc h
    · rcases List.mem_cons.mp listed with h | listed
      · exact hd h
      · exact hf (List.mem_singleton.mp listed)

def Says (v : Json) (order : Order) : Prop :=
  match order.operation with
  | .submit path zones => FlightRequest.Says v order.id path zones
  | _ => DroneRequest.Says v ⟨order.id⟩

end Order

namespace Request

def path (r : Request) : List Char := (Target.ofText r.target.toList).path

/-- the order of a request, or the fault of its body; none if it is not posted to a command -/
def order? (r : Request) : Option (Except BodyFault Order) :=
  if r.method = "POST" then (Order.reader? r.path).map fun read => read r else none

theorem order?_eq_none_iff (r : Request) :
    r.order? = none ↔ ¬ (r.method = "POST" ∧ String.ofList r.path ∈ Order.paths) := by
  unfold order?
  by_cases hm : r.method = "POST"
  · rw [if_pos hm, Option.map_eq_none_iff, Order.reader?_eq_none_iff]
    exact ⟨fun h posted => h posted.2, fun h listed => h ⟨hm, listed⟩⟩
  · rw [if_neg hm]
    exact iff_of_true rfl fun posted => hm posted.1

theorem exists_of_decode {α : Type} {r : Request} {read : List Char → Except Json.Fault α} {a : α}
    (h : r.decode read = .ok a) :
    r.announcesJson = true ∧ r.body.size ≤ maxBody ∧ read (textOf r.body) = .ok a := by
  unfold decode at h
  cases typed : r.announcesJson with
  | false =>
    rw [typed] at h
    cases h
  | true =>
    simp only [typed, Bool.not_true, Bool.false_eq_true, if_false] at h
    split at h
    · cases h
    · next short =>
      split at h
      · next hr =>
        cases h
        exact ⟨rfl, Nat.le_of_not_lt short, hr⟩
      · cases h
      · cases h

def posted (target body : String) : Request where
  method := "POST"
  target := target
  headers := [("content-type", "application/json")]
  body := body.toUTF8

/-- a request for a stream, on a connection that may become one -/
def asking (name : String) : Request where
  method := "GET"
  target := "/ws"
  headers := [("Connection", "Upgrade"), ("Upgrade", "websocket"),
    ("Sec-WebSocket-Version", "13"), ("Sec-WebSocket-Key", "dGhlIHNhbXBsZSBub25jZQ==")]
  connection? := some name

/-- a request in due form for a stream of notices -/
structure Handshake (r : Request) : Prop where
  method : r.method = "GET"
  path : String.ofList r.path = "/ws"
  connection : ∃ h, r.header? "connection" = some h ∧
    occurs "upgrade".toList (lower h.toList) = true
  upgrade : ∃ h, r.header? "upgrade" = some h ∧ sameIgnoringCase h "websocket" = true
  version : r.header? "sec-websocket-version" = some "13"
  key : r.header? "sec-websocket-key" ≠ none

end Request

namespace Service

variable {s : Service} {r : Request}

/-- an answer that is the outcome of one operation: what it leaves and what it publishes if it
succeeds, and the reason why if it fails -/
structure Obeys (s : Service) (order : Order) (a : Answer) : Prop where
  carried : ∀ o, order.operation.perform s.fleet order.id = .ok o →
    a.1 = { s with fleet := o.fleet } ∧ a.2.2.published = o.report.published ∧ a.2.1.status = 200
  refused : ∀ e, order.operation.perform s.fleet order.id = .error e →
    a.1 = s ∧ a.2.2.published = [] ∧ a.2.1.body = .json (.object [("error", .string e.message)])
  missing : ∀ id, order.operation.perform s.fleet order.id = .error (.notFound id) →
    a.2.1.status = 404
  invalid : ∀ e, order.operation.perform s.fleet order.id = .error e → (∀ id, e ≠ .notFound id) →
    a.2.1.status = 400

theorem Obeys.with_headers {order : Order} {a : Answer} (h : s.Obeys order a)
    (headers : List (String × String)) :
    s.Obeys order (a.1, { a.2.1 with headers := headers }, a.2.2) :=
  ⟨h.carried, h.refused, h.missing, h.invalid⟩

theorem obeys_operated {order : Order} {result : Except FleetError (Fleet × Report)}
    (h : order.operation.perform s.fleet order.id =
      result.map fun x => { fleet := x.1, report := x.2 }) (text : String) (more : List Remark) :
    s.Obeys order (s.operated result text more) := by
  cases result with
  | error e =>
    refine ⟨fun o ho => ?_, fun d hd => ?_, fun id hd => ?_, fun d hd other => ?_⟩
    · cases h.symm.trans ho
    · cases h.symm.trans hd
      exact ⟨rfl, rfl, rfl⟩
    · cases h.symm.trans hd
      rfl
    · cases h.symm.trans hd
      cases e with
      | notFound id => exact absurd rfl (other id)
      | _ => rfl
  | ok x =>
    refine ⟨fun o ho => ?_, fun e he => ?_, fun id he => ?_, fun e he => ?_⟩
    · cases h.symm.trans ho
      exact ⟨rfl, List.append_nil _, rfl⟩
    · cases h.symm.trans he
    · cases h.symm.trans he
    · cases h.symm.trans he

/-- a route that tells a fault of the body, and otherwise comes to the operation that is ordered -/
def Follows (read : Request → Except BodyFault Order) (route : Route) : Prop :=
  ∀ (s : Service) (network : Location.Network) (query : List Char) (r : Request),
    (∀ φ, read r = .error φ → s.serve network route query r = s.unchanged φ.response) ∧
      ∀ order, read r = .ok order → s.Obeys order (s.serve network route query r)

/-- a route follows an operation if it comes to it once the body is read -/
theorem follows_of_decode {α : Type} {body : List Char → Except Json.Fault α} {order : α → Order}
    {route : Route} {result : Service → α → Except FleetError (Fleet × Report)}
    (text : α → String) (more : α → List Remark)
    (serve : ∀ (s : Service) network query r, s.serve network route query r =
      match r.decode body with
      | .ok q => s.operated (result s q) (text q) (more q)
      | .error φ => s.unchanged φ.response)
    (perform : ∀ (s : Service) q, (order q).operation.perform s.fleet (order q).id =
      (result s q).map fun x => { fleet := x.1, report := x.2 }) :
    Follows (fun r => (r.decode body).map order) route := by
  intro s network query r
  rw [serve]
  dsimp only
  cases r.decode body with
  | error φ =>
    refine ⟨fun ψ hψ => ?_, nofun⟩
    cases hψ
    rfl
  | ok q =>
    refine ⟨nofun, fun o ho => ?_⟩
    cases ho
    exact obeys_operated (perform s q) (text q) (more q)

theorem follows_connect :
    Follows (fun r => (r.decode DroneRequest.read).map fun q => ⟨q.id, .connect⟩) .connect :=
  follows_of_decode (fun q => "Connected to " ++ q.id) (fun _ => [])
    (fun s network query r => by
      show s.connect r = _
      unfold connect
      cases r.decode DroneRequest.read with
      | error φ => rfl
      | ok q => rfl)
    fun _ _ => rfl

theorem follows_disconnect :
    Follows (fun r => (r.decode DroneRequest.read).map fun q => ⟨q.id, .disconnect⟩)
      .disconnect :=
  follows_of_decode (fun q => "Disconnected from " ++ q.id) (fun _ => [])
    (fun s network query r => by
      show s.disconnect r = _
      unfold disconnect
      cases r.decode DroneRequest.read with
      | error φ => rfl
      | ok q => rfl)
    fun _ _ => rfl

theorem follows_flightPath :
    Follows (fun r => (r.decode FlightRequest.read).map fun q =>
      ⟨q.id, .submit q.path (Zones.ofJson q.zones)⟩) .flightPath :=
  follows_of_decode (fun q => "Flight path sent to " ++ q.id) (fun q => [.pathSent q.id])
    (fun s network query r => by
      show s.flightPath r = _
      unfold flightPath
      cases r.decode FlightRequest.read with
      | error φ => rfl
      | ok q => rfl)
    fun _ _ => rfl

theorem exists_route_of_reader? {path : List Char} {read : Request → Except BodyFault Order}
    (h : Order.reader? path = some read) :
    ∃ route, Route.ofPath? path = some route ∧ route.isCommand = true ∧ Follows read route := by
  unfold Order.reader? at h
  unfold Route.ofPath?
  split at h
  · next hp =>
    cases h
    rw [hp]
    exact ⟨.connect, rfl, rfl, follows_connect⟩
  · next hp =>
    cases h
    rw [hp]
    exact ⟨.disconnect, rfl, rfl, follows_disconnect⟩
  · next hp =>
    cases h
    rw [hp]
    exact ⟨.flightPath, rfl, rfl, follows_flightPath⟩
  · cases h

theorem isCommand_of_reader?_none {path : List Char} {route : Route}
    (h : Order.reader? path = none) (hr : Route.ofPath? path = some route) :
    route.isCommand = false := by
  unfold Order.reader? at h
  unfold Route.ofPath? at hr
  split at h
  · cases h
  · cases h
  · cases h
  · next hc hd hf =>
    split at hr
    · cases hr
      rfl
    · cases hr
      rfl
    · cases hr
      rfl
    · next hp => exact absurd hp hc
    · next hp => exact absurd hp hd
    · next hp => exact absurd hp hf
    · cases hr
      rfl
    · obtain ⟨id, -, rfl⟩ := Option.map_eq_some_iff.mp hr
      rfl

/-! ## answers -/

/-- only a command can change the service or publish something -/
theorem serve_unchanged {route : Route} (h : route.isCommand = false) (s : Service)
    (network : Location.Network) (query : List Char) (r : Request) :
    (s.serve network route query r).1 = s ∧
      (s.serve network route query r).2.2.published = [] := by
  cases route with
  | connect => cases h
  | disconnect => cases h
  | flightPath => cases h
  | _ => exact ⟨rfl, rfl⟩

theorem respond_of_command (hm : r.method = "POST") {route : Route}
    (hr : Route.ofPath? r.path = some route) (hc : route.isCommand = true) (s : Service)
    (network : Location.Network) :
    s.respond network r = s.serve network route (Target.ofText r.target.toList).query r := by
  have fits : route.allows r.method = true := by
    unfold Route.allows
    rw [hc, hm]
    rfl
  have head : r.method ≠ "HEAD" := by
    rw [hm]
    decide
  replace hr : Route.ofPath? (Target.ofText r.target.toList).path = some route := hr
  unfold respond
  simp only [hr, fits, head, if_true, if_false]

theorem respond_of_order?_none (h : r.order? = none) (s : Service) (network : Location.Network) :
    (s.respond network r).1 = s ∧ (s.respond network r).2.2.published = [] := by
  unfold respond
  dsimp only
  split
  · exact ⟨rfl, rfl⟩
  · next route hr =>
    split
    · next fits =>
      -- a command is allowed for a post only, and its path is that of an order
      have other : route.isCommand = false := by
        cases hc : route.isCommand with
        | false => rfl
        | true =>
          have hm : r.method = "POST" := by simpa [Route.allows, hc] using fits
          unfold Request.order? at h
          rw [if_pos hm, Option.map_eq_none_iff] at h
          rw [isCommand_of_reader?_none h hr] at hc
          cases hc
      exact serve_unchanged other s network _ r
    · exact ⟨rfl, rfl⟩

end Service

section
variable {r : Request} {order : Order}

/-- an order that is read is what the body says, and the body is of the right type and length -/
theorem says_of_decode {α : Type} {body : List Char → Except Json.Fault α} {toOrder : α → Order}
    (shows : ∀ q s size depth v rest, body s = .ok q →
      Json.value true size depth s = .ok (v, rest) → (toOrder q).Says v)
    (h : (r.decode body).map toOrder = .ok order) :
    r.announcesJson = true ∧ r.body.size ≤ maxBody ∧
      ∀ size depth v rest, Json.value true size depth (textOf r.body) = .ok (v, rest) →
        order.Says v := by
  obtain ⟨q, hq, rfl⟩ := exists_of_map_eq_ok h
  obtain ⟨typed, short, hb⟩ := Request.exists_of_decode hq
  exact ⟨typed, short, fun size depth v rest hv => shows q _ size depth v rest hb hv⟩

/-- an order is posted to a command, with a body of the right type and length that says it -/
theorem accepted_of_order? (h : r.order? = some (.ok order)) :
    r.method = "POST" ∧ String.ofList r.path ∈ Order.paths ∧
      r.announcesJson = true ∧ r.body.size ≤ maxBody ∧
      ∀ size depth v rest, Json.value true size depth (textOf r.body) = .ok (v, rest) →
        order.Says v := by
  unfold Request.order? at h
  split at h
  · next hm =>
    obtain ⟨read, hr, hx⟩ := Option.map_eq_some_iff.mp h
    unfold Order.reader? at hr
    split at hr
    · next hp =>
      cases hr
      refine ⟨hm, by rw [hp]; decide, says_of_decode ?_ hx⟩
      exact fun q s size depth v rest => DroneRequest.says_of_read
    · next hp =>
      cases hr
      refine ⟨hm, by rw [hp]; decide, says_of_decode ?_ hx⟩
      exact fun q s size depth v rest => DroneRequest.says_of_read
    · next hp =>
      cases hr
      refine ⟨hm, by rw [hp]; decide, says_of_decode ?_ hx⟩
      exact fun q s size depth v rest => FlightRequest.says_of_read
    · cases hr
  · cases h

theorem exists_of_order? {x : Except BodyFault Order} (h : r.order? = some x) :
    ∃ read route query, read r = x ∧ Service.Follows read route ∧
      ∀ (s : Service) network, s.respond network r = s.serve network route query r := by
  unfold Request.order? at h
  split at h
  · next hm =>
    obtain ⟨read, hr, hx⟩ := Option.map_eq_some_iff.mp h
    obtain ⟨route, hroute, hc, follows⟩ := Service.exists_route_of_reader? hr
    exact ⟨read, route, _, hx, follows, Service.respond_of_command hm hroute hc⟩
  · cases h

theorem handle_of_fault {φ : BodyFault} (h : r.order? = some (.error φ)) (s : Service)
    (network : Location.Network) :
    s.handle network r =
      (s, { φ.response with
        headers := φ.response.headers ++ Service.sharing (r.method = "OPTIONS") }, .empty) := by
  obtain ⟨read, route, query, hread, follows, same⟩ := exists_of_order? h
  have told := (follows s network query r).1 φ hread
  unfold Service.handle
  rw [same, told]
  rfl

theorem obeys_handle (h : r.order? = some (.ok order)) (s : Service) (network : Location.Network) :
    s.Obeys order (s.handle network r) := by
  obtain ⟨read, route, query, hread, follows, same⟩ := exists_of_order? h
  have obeys := (follows s network query r).2 order hread
  unfold Service.handle
  rw [same]
  exact obeys.with_headers _

theorem unchanged_of_order?_none (h : r.order? = none) (s : Service) (network : Location.Network) :
    (s.handle network r).1 = s ∧ (s.handle network r).2.2.published = [] := by
  have same := Service.respond_of_order?_none h s network
  unfold Service.handle
  rcases hx : s.respond network r with ⟨t, response, report⟩
  rw [hx] at same
  exact same

end

theorem status_response (φ : BodyFault) : 400 ≤ φ.response.status ∧ φ.response.status < 500 := by
  cases φ <;> decide

/-! ## streams -/

section
variable {r : Request} {name : String}

theorem stream?_of_upgradeFault? {fault : Response} (h : upgradeFault? r = some fault) :
    fault.stream? = none := by
  obtain ⟨c, hc, rfl⟩ := Option.map_eq_some_iff.mp h
  have mem := List.mem_of_find?_eq_some hc
  simp only [upgradeConditions, List.mem_cons, List.not_mem_nil, or_false] at mem
  rcases mem with rfl | rfl | rfl | rfl | rfl <;> rfl

theorem upgradeFault?_eq_none_iff (hp : String.ofList r.path = "/ws") :
    upgradeFault? r = none ↔ r.Handshake := by
  have conditions : upgradeFault? r = none ↔ ∀ c ∈ upgradeConditions r, c.1 = true := by
    simp [upgradeFault?]
  rw [conditions]
  simp only [upgradeConditions, List.forall_mem_cons, List.not_mem_nil, false_imp_iff,
    implies_true, and_true, decide_eq_true_eq, Option.any_eq_true, Option.isSome_iff_ne_none]
  constructor
  · rintro ⟨method, connection, upgrade, version, key⟩
    exact ⟨method, hp, connection, upgrade, version, key⟩
  · intro h
    exact ⟨h.method, h.connection, h.upgrade, h.version, h.key⟩

end

namespace Service

/-! ### answers without a stream -/

theorem stream?_response (φ : BodyFault) : φ.response.stream? = none := by
  cases φ <;> rfl

theorem stream?_operated (s : Service) (result : Except FleetError (Fleet × Report))
    (text : String) (more : List Remark) : (s.operated result text more).2.1.stream? = none := by
  cases result <;> rfl

theorem stream?_info (s : Service) (id : List Char) : (s.info id).stream? = none := by
  unfold info
  split
  · rfl
  · split <;> rfl

theorem stream?_place (s : Service) (network : Location.Network) (query : List Char) :
    (s.place network query).1.stream? = none := by
  unfold place
  split
  · rfl
  · dsimp only
    split <;> rfl

theorem stream?_serve {route : Route} (h : route ≠ .notices) (s : Service)
    (network : Location.Network) (query : List Char) (r : Request) :
    (s.serve network route query r).2.1.stream? = none := by
  cases route with
  | discovery => rfl
  | elevation => rfl
  | location => exact stream?_place s network query
  | connect =>
    show (s.connect r).2.1.stream? = none
    unfold connect
    split
    · exact stream?_operated s _ _ _
    · exact stream?_response _
  | disconnect =>
    show (s.disconnect r).2.1.stream? = none
    unfold disconnect
    split
    · exact stream?_operated s _ _ _
    · exact stream?_response _
  | info id => exact stream?_info s id
  | flightPath =>
    show (s.flightPath r).2.1.stream? = none
    unfold flightPath
    split
    · exact stream?_operated s _ _ _
    · exact stream?_response _
  | notices => exact absurd rfl h

theorem ofPath?_eq_notices_iff (path : List Char) :
    Route.ofPath? path = some .notices ↔ String.ofList path = "/ws" := by
  constructor
  · intro h
    unfold Route.ofPath? at h
    split at h
    all_goals first
      | cases h
      | skip
    · next hp => exact hp
    · obtain ⟨id, -, hid⟩ := Option.map_eq_some_iff.mp h
      cases hid
  · intro h
    unfold Route.ofPath?
    rw [h]
    rfl

/-! ### the stream of a request -/

section
variable {r : Request} {name : String}

theorem stream?_upgrade_of_none (h : upgradeFault? r ≠ none ∨ r.connection? = none) :
    (upgrade r).stream? = none := by
  unfold upgrade
  cases hf : upgradeFault? r with
  | some fault => exact stream?_of_upgradeFault? hf
  | none =>
    have hc := h.resolve_left fun hne => hne hf
    rw [hc]
    rfl

theorem stream?_handle (s : Service) (network : Location.Network) (r : Request) :
    (s.handle network r).2.1.stream? = (s.respond network r).2.1.stream? := by
  unfold handle
  rcases s.respond network r with ⟨t, response, report⟩
  rfl

theorem stream?_handle_of_not (h : ¬ (r.Handshake ∧ r.connection? ≠ none)) (s : Service)
    (network : Location.Network) : (s.handle network r).2.1.stream? = none := by
  rw [stream?_handle]
  unfold respond
  dsimp only
  split
  · rfl
  · next route hr =>
    split
    · have served : (s.serve network route (Target.ofText r.target.toList).query r).2.1.stream? =
          none := by
        by_cases hn : route = .notices
        · subst hn
          have hp := (ofPath?_eq_notices_iff r.path).mp hr
          refine stream?_upgrade_of_none ?_
          by_cases hs : r.Handshake
          · exact Or.inr (Decidable.not_not.mp fun hc => h ⟨hs, hc⟩)
          · exact Or.inl fun hf => hs ((upgradeFault?_eq_none_iff hp).mp hf)
        · exact stream?_serve hn s network _ r
      show (if r.method = "HEAD" then (s.serve network route _ r).2.1.withoutBody
        else (s.serve network route _ r).2.1).stream? = none
      by_cases head : r.method = "HEAD"
      · rw [if_pos head]
        exact served
      · rw [if_neg head]
        exact served
    · rfl

/-- a handshake is answered, and changes nothing yet -/
theorem handle_of_handshake (h : r.Handshake) (hc : r.connection? = some name) (s : Service)
    (network : Location.Network) :
    (s.handle network r).1 = s ∧ (s.handle network r).2.2 = .empty ∧
      (s.handle network r).2.1.status = 101 ∧ (s.handle network r).2.1.stream? = some name := by
  have hr : Route.ofPath? (Target.ofText r.target.toList).path = some .notices :=
    (ofPath?_eq_notices_iff r.path).mpr h.path
  have fits : Route.allows .notices r.method = true := by
    rw [h.method]
    decide
  have head : r.method ≠ "HEAD" := by
    rw [h.method]
    decide
  have due : upgradeFault? r = none := (upgradeFault?_eq_none_iff h.path).mpr h
  have answered : s.respond network r = s.unchanged (upgrade r) := by
    unfold respond
    simp only [hr, fits, head, if_true, if_false]
    rfl
  have accepted : upgrade r = { status := 101, headers := [("connection", "upgrade"),
      ("upgrade", "websocket")], stream? := some name } := by
    unfold upgrade
    rw [due, hc]
  unfold handle
  rw [answered, accepted]
  exact ⟨rfl, rfl, rfl, rfl⟩

/-- one more observer, with nothing to hear yet, and all else as it was: the drones and their runs,
what is kept of the notices, and what the other observers have still to hear -/
structure Joins (name : String) (s t : Service) : Prop where
  location : t.location = s.location
  fleet : t.fleet = { s.fleet with channel := t.fleet.channel }
  kept : t.fleet.channel.kept = s.fleet.channel.kept
  sent : t.fleet.channel.sent = s.fleet.channel.sent
  listens : t.fleet.channel.observers.lookup name = some s.fleet.channel.sent
  others : ∀ other, other ≠ name →
    t.fleet.channel.observers.lookup other = s.fleet.channel.observers.lookup other

theorem joins_begin {response : Response} (h : response.stream? = some name) (s : Service) :
    Joins name s (s.begin response).1 ∧
      (s.begin response).2 = some ⟨name, some .greeting, [], true⟩ := by
  unfold begin
  rw [h]
  exact ⟨⟨rfl, rfl, rfl, rfl, s.fleet.channel.lookup_subscribe_self name,
    fun other ho => s.fleet.channel.lookup_subscribe_of_ne ho⟩, rfl⟩

theorem begin_of_none {response : Response} (h : response.stream? = none) (s : Service) :
    s.begin response = (s, none) := by
  unfold begin
  rw [h]

end

end Service

/-- **A request either orders one operation on the fleet or changes nothing.** If it is posted to a
command, with a body of the right type and length that says an order, the service answers with the
outcome of this one operation: with 200 and the fleet and the notices that the operation leaves, or
with its error, 404 for a drone that is not found and 400 for all else, and the fleet as it was. If
the body is at fault, the answer is the same whatever the fleet, and refuses the request. All other
requests leave drones, runs and notices alone. A handshake on a connection that may become a stream
is answered with 101; from then on one more observer listens, whatever the service has come to, and
the others have still to hear what they had. No other request has anything to it but its answer. -/
theorem requests_refine_operations (r : Request) :
    (∀ order, r.order? = some (.ok order) →
      r.method = "POST" ∧ String.ofList r.path ∈ Order.paths ∧
      r.announcesJson = true ∧ r.body.size ≤ maxBody ∧
      (∀ size depth v rest, Json.value true size depth (textOf r.body) = .ok (v, rest) →
        order.Says v) ∧
      ∀ (s : Service) network, s.Obeys order (s.handle network r)) ∧
    (∀ φ, r.order? = some (.error φ) →
      ∃ response : Response, 400 ≤ response.status ∧ response.status < 500 ∧
        ∀ (s : Service) network, s.handle network r = (s, response, .empty)) ∧
    (r.order? = none ↔ ¬ (r.method = "POST" ∧ String.ofList r.path ∈ Order.paths)) ∧
    (r.order? = none → ∀ (s : Service) network,
      (s.handle network r).1 = s ∧ (s.handle network r).2.2.published = []) ∧
    (r.Handshake → ∀ name, r.connection? = some name → ∀ (s : Service) network,
      (s.handle network r).2.1.status = 101 ∧
      ∀ t : Service, t.Joins name (t.begin (s.handle network r).2.1).1 ∧
        (t.begin (s.handle network r).2.1).2 = some ⟨name, some .greeting, [], true⟩) ∧
    (¬ (r.Handshake ∧ r.connection? ≠ none) → ∀ (s : Service) network (t : Service),
      t.begin (s.handle network r).2.1 = (t, none)) := by
  refine ⟨fun order h => ?_, fun φ h => ?_, r.order?_eq_none_iff, fun h s network => ?_,
    fun h name hc s network => ?_, fun h s network t => ?_⟩
  · obtain ⟨hm, hp, typed, short, hv⟩ := accepted_of_order? h
    exact ⟨hm, hp, typed, short, hv, obeys_handle h⟩
  · obtain ⟨low, high⟩ := status_response φ
    exact ⟨{ φ.response with
      headers := φ.response.headers ++ Service.sharing (r.method = "OPTIONS") },
      low, high, handle_of_fault h⟩
  · exact unchanged_of_order?_none h s network
  · obtain ⟨-, -, status, stream⟩ := Service.handle_of_handshake h hc s network
    exact ⟨status, Service.joins_begin stream⟩
  · exact Service.begin_of_none (Service.stream?_handle_of_not h s network) t

/-- a connection is made, a flight of a drone that is not there is refused, a body without an id is
at fault, and a handshake makes its connection an observer -/
theorem requests_to_one_drone :
    (∃ o, Operation.connect.perform (Fleet.seeded { count := 1 } {} 16).1 "tello-1" = .ok o ∧
      ((⟨(Fleet.seeded { count := 1 } {} 16).1, {}⟩ : Service).handle Location.isolated
        (.posted "/connect" "[\"tello-1\"]")).1.fleet = o.fleet) ∧
    ((⟨(Fleet.seeded { count := 1 } {} 16).1, {}⟩ : Service).handle Location.isolated
      (.posted "/flightpath" "[\"tello-2\", [[\"takeoff\"]]]")).2.1.status = 404 ∧
    (∃ response, ∀ (s : Service) network,
      s.handle network (.posted "/disconnect" "[]") = (s, response, .empty)) ∧
    ∀ (s : Service) network, (s.handle network (.asking "observer")).2.1.status = 101 ∧
      s.Joins "observer" (s.begin (s.handle network (.asking "observer")).2.1).1 := by
  obtain ⟨connects, -⟩ := requests_refine_operations (.posted "/connect" "[\"tello-1\"]")
  obtain ⟨flies, -⟩ :=
    requests_refine_operations (.posted "/flightpath" "[\"tello-2\", [[\"takeoff\"]]]")
  obtain ⟨-, faulty, -⟩ := requests_refine_operations (.posted "/disconnect" "[]")
  obtain ⟨-, -, -, -, listens, -⟩ := requests_refine_operations (.asking "observer")
  obtain ⟨-, -, -, -, -, obeys⟩ := connects ⟨"tello-1", .connect⟩ rfl
  obtain ⟨-, -, -, -, -, refuses⟩ := flies ⟨"tello-2", .submit ["takeoff"] []⟩ rfl
  obtain ⟨response, -, -, same⟩ := faulty .mismatched rfl
  have asked : Request.Handshake (.asking "observer") :=
    ⟨rfl, rfl, ⟨"Upgrade", rfl, by decide⟩, ⟨"websocket", rfl, by decide⟩, rfl, nofun⟩
  refine ⟨?_, ?_, ⟨response, same⟩, fun s network => ?_⟩
  · obtain ⟨o, ho⟩ : ∃ o, Operation.connect.perform (Fleet.seeded { count := 1 } {} 16).1
        "tello-1" = .ok o := ⟨_, rfl⟩
    have carried := (obeys ⟨(Fleet.seeded { count := 1 } {} 16).1, {}⟩ Location.isolated).carried
    exact ⟨o, ho, congrArg Service.fleet (carried o ho).1⟩
  · have absent : (Fleet.seeded { count := 1 } {} 16).1.bay? "tello-2" = none := by rfl
    have missing := (refuses ⟨(Fleet.seeded { count := 1 } {} 16).1, {}⟩ Location.isolated).missing
    exact missing "tello-2" (Operation.perform_of_none absent _)
  · obtain ⟨status, joins⟩ := listens asked "observer" rfl s network
    exact ⟨status, (joins s).1⟩

end DroneFleet.Http
