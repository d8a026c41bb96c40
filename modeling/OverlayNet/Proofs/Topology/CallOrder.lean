import Mathlib
import OverlayNet.Proofs.Topology.RecordedCalls
import OverlayNet.Proofs.Topology.Routability

set_option autoImplicit false

/-! # The order of the calls

Attaching a container makes its calls in one fixed order, whatever the channel answers and whoever
else creates or deletes devices meanwhile. A call is about devices with certain names, and the
numbers in it are those that the last lookups of these names have found. The first call that fails
is the last one. -/

namespace OverlayNet.Topology

variable {κ φ α β : Type}

section Calls

/-- What an exchange adds to what is known of the numbers of devices: a lookup tells the number of
the device with a name, if there is one. -/
def learn (known : String → Option Nat) : Exchange → String → Option Nat
  | ⟨.indexOf name, .ok found⟩ => Function.update known name found
  | ⟨.indexOf name, .error _⟩ => Function.update known name none
  | _ => known

/-- For each name the number that the last lookup of it has found, if there was one and it found a
device. -/
def latest (trace : List Exchange) : String → Option Nat :=
  trace.foldl learn fun _ => none

@[simp]
theorem latest_append (before exchanges : List Exchange) :
    latest (before ++ exchanges) = exchanges.foldl learn (latest before) :=
  List.foldl_append

/-- A call about devices, which are given by their names. -/
inductive NamedCall where
  /-- A lookup of a device that may be missing, with whether it is there. -/
  | seek (name : String) (there : Bool)
  /-- A lookup of a device that must be there. -/
  | find (context name : String)
  | createBridge (name : String)
  | createVxlan (vxlan : Vxlan) (uplink : String)
  | createPair (name peer : String)
  | moveInto (name : String) (target : Path) (interface : String)
  | setUp (name : String)
  | addAddress (name : String) (cidr : Cidr)
  | configureIn (target : Path) (interface : String) (cidr : Cidr) (gateway : Ipv4)
  /-- A question for the bridge of a device, with whether it is the given one. -/
  | masterOf (name bridge : String) (joined : Bool)
  | setMaster (name bridge : String)

namespace NamedCall

/-- The request that a call makes, given the numbers of the devices. -/
def request? (known : String → Option Nat) : NamedCall → Option LinkRequest
  | seek name _ => some (.indexOf name)
  | find _ name => some (.indexOf name)
  | createBridge name => some (.createBridge name)
  | createVxlan vxlan uplink => (known uplink).map (.createVxlan vxlan)
  | createPair name peer => some (.createPair name peer)
  | moveInto name target interface => (known name).map (.moveInto · target interface)
  | setUp name => (known name).map .setUp
  | addAddress name cidr => (known name).map (.addAddress · cidr)
  | configureIn target interface cidr gateway => some (.configureIn target interface cidr gateway)
  | masterOf name _ _ => (known name).map .masterOf
  | setMaster name bridge => do some (.setMaster (← known name) (← known bridge))

/-- Whether a call succeeds with an exchange, and comes to what the call says that it does. -/
def Succeeds (known : String → Option Nat) : NamedCall → Exchange → Prop
  | seek _ there, ⟨.indexOf _, .ok found⟩ => found.isSome = there
  | find _ _, ⟨.indexOf _, .ok found⟩ => found.isSome
  | masterOf _ bridge joined, ⟨.masterOf _, .ok master⟩ => decide (master = known bridge) = joined
  | _, ⟨_, outcome⟩ => outcome.isOk

/-- The fault with which an exchange ends an attachment, if it does: that of the channel, or that a
device is missing which must be there. -/
def fault? : NamedCall → Exchange → Option Fault
  | find context name, ⟨.indexOf _, .ok none⟩ => some (missing context name)
  | _, ⟨_, .error fault⟩ => some fault
  | _, _ => none

end NamedCall

/-- Whether behind earlier exchanges, others carry out calls one after the other. -/
inductive Carries (before : List Exchange) : List NamedCall → List Exchange → Prop where
  | nothing : Carries before [] before
  | next {calls : List NamedCall} {trace : List Exchange} {call : NamedCall} {exchange : Exchange}
      (earlier : Carries before calls trace)
      (asks : call.request? (latest trace) = some exchange.request)
      (succeeds : call.Succeeds (latest trace) exchange) :
      Carries before (calls ++ [call]) (trace ++ [exchange])

/-- Whether behind earlier exchanges, others carry out the first of some calls and then fail with
the next one, and there are no more. -/
inductive Breaks (before : List Exchange) : List NamedCall → List Exchange → Fault → Prop where
  | stop {calls rest : List NamedCall} {trace : List Exchange} {call : NamedCall}
      {exchange : Exchange} {fault : Fault} (earlier : Carries before calls trace)
      (asks : call.request? (latest trace) = some exchange.request)
      (fails : call.fault? exchange = some fault) :
      Breaks before (calls ++ call :: rest) (trace ++ [exchange]) fault

variable {before trace last : List Exchange} {calls others : List NamedCall} {fault : Fault}

theorem Carries.trans (first : Carries before calls trace) (second : Carries trace others last) :
    Carries before (calls ++ others) last := by
  induction second with
  | nothing => rwa [List.append_nil]
  | next _ asks succeeds ih =>
      rw [← List.append_assoc]
      exact .next ih asks succeeds

private theorem Carries.breaks (first : Carries before calls trace)
    (second : Breaks trace others last fault) : Breaks before (calls ++ others) last fault := by
  cases second with
  | stop earlier asks fails =>
      rw [← List.append_assoc]
      exact .stop (first.trans earlier) asks fails

theorem Breaks.append (breaks : Breaks before calls last fault) (others : List NamedCall) :
    Breaks before (calls ++ others) last fault := by
  cases breaks with
  | stop earlier asks fails =>
      rw [List.append_assoc, List.cons_append]
      exact .stop earlier asks fails

end Calls

section Performing

variable {orders others : Language NamedCall} {before : List Exchange}

/-- Whether work on a host with a record makes one of several sequences of calls, all of it if it
succeeds, and up to the call that fails otherwise. -/
def Performs (work : Action (κ × List Exchange) φ α) (orders : Language NamedCall)
    (before : List Exchange) (after : α → List Exchange → Prop) : Prop :=
  ∀ host : Host (κ × List Exchange) φ, host.links.2 = before →
    Procedure.Ensures work
      (fun value later =>
        (∃ order ∈ orders, Carries before order later.links.2) ∧ after value later.links.2)
      (fun fault later => ∃ order ∈ orders, Breaks before order later.links.2 fault) host

theorem Performs.weaken {work : Action (κ × List Exchange) φ α}
    {after weaker : α → List Exchange → Prop} (performs : Performs work orders before after)
    (weakens : ∀ value trace, after value trace → weaker value trace) :
    Performs work orders before weaker := by
  intro host started
  apply (performs host started).mono
  · exact fun value later done => ⟨done.1, weakens value _ done.2⟩
  · exact fun fault later failed => failed

def Possible (orders : Language NamedCall) : Prop :=
  ∃ order, order ∈ orders

@[simp]
theorem possible_singleton (calls : List NamedCall) : Possible {calls} :=
  ⟨calls, rfl⟩

@[simp]
theorem possible_mul_iff : Possible (orders * others) ↔ Possible orders ∧ Possible others := by
  constructor
  · rintro ⟨calls, member⟩
    obtain ⟨order, first, other, second, -⟩ := Language.mem_mul.mp member
    exact ⟨⟨order, first⟩, other, second⟩
  · rintro ⟨⟨order, first⟩, other, second⟩
    exact ⟨order ++ other, Language.mem_mul.mpr ⟨order, first, other, second, rfl⟩⟩

theorem Performs.bind {work : Action (κ × List Exchange) φ α}
    {next : α → Action (κ × List Exchange) φ β} {middle : α → List Exchange → Prop}
    {after : β → List Exchange → Prop} (first : Performs work orders before middle)
    (possible : Possible others)
    (second : ∀ value trace, middle value trace → Performs (next value) others trace after) :
    Performs (work >>= next) (orders * others) before after := by
  intro host started
  apply Procedure.ensures_bind.mpr
  apply (first host started).mono
  · rintro value later ⟨⟨order, member, carries⟩, reached⟩
    apply (second value _ reached later rfl).mono
    · rintro result last ⟨⟨other, otherMember, otherCarries⟩, ended⟩
      exact ⟨⟨order ++ other, Language.mem_mul.mpr ⟨order, member, other, otherMember, rfl⟩,
        carries.trans otherCarries⟩, ended⟩
    · rintro fault last ⟨other, otherMember, breaks⟩
      exact ⟨order ++ other, Language.mem_mul.mpr ⟨order, member, other, otherMember, rfl⟩,
        carries.breaks breaks⟩
  · rintro fault later ⟨order, member, breaks⟩
    -- The calls that are never made could be any of the later ones, so there must be some.
    obtain ⟨other, otherMember⟩ := possible
    exact ⟨order ++ other, Language.mem_mul.mpr ⟨order, member, other, otherMember, rfl⟩,
      breaks.append other⟩

private theorem singleton_mul (calls more : List NamedCall) :
    ({calls} : Language NamedCall) * {more} = {calls ++ more} :=
  Set.image2_singleton

theorem Performs.append {work : Action (κ × List Exchange) φ α}
    {next : α → Action (κ × List Exchange) φ β} {middle : α → List Exchange → Prop}
    {after : β → List Exchange → Prop} {calls more : List NamedCall}
    (first : Performs work {calls} before middle)
    (second : ∀ value trace, middle value trace → Performs (next value) {more} trace after) :
    Performs (work >>= next) {calls ++ more} before after := by
  rw [← singleton_mul]
  exact first.bind (possible_singleton more) second

theorem performs_pure {value : α} {after : α → List Exchange → Prop} (holds : after value before) :
    Performs (pure value : Action (κ × List Exchange) φ α) {[]} before after := by
  rintro host rfl
  exact ⟨⟨[], rfl, .nothing⟩, holds⟩

theorem performs_inform (text : String) {after : Unit → List Exchange → Prop}
    (holds : after () before) :
    Performs (Procedure.inform text : Action (κ × List Exchange) φ Unit) {[]} before after := by
  rintro host rfl
  exact ⟨⟨[], rfl, .nothing⟩, holds⟩

theorem outcome_ask_recorded (channel : LinkChannel κ) (request : LinkRequest)
    (host : Host (κ × List Exchange) φ) :
    ∃ outcome links, (Procedure.ask channel.recorded request).outcome host =
      (outcome, { host with links := (links, host.links.2 ++ [⟨request, outcome⟩]) }) :=
  ⟨_, _, Procedure.outcome_ask channel.recorded request host⟩

private theorem fault?_error (call : NamedCall) (request : LinkRequest) (fault : Fault) :
    call.fault? ⟨request, .error fault⟩ = some fault := by
  cases call with
  | find context name => cases request <;> rfl
  | _ => rfl

theorem performs_ask (channel : LinkChannel κ) (call : NamedCall) (request : LinkRequest)
    (asks : call.request? (latest before) = some request)
    (succeeds : ∀ value, call.Succeeds (latest before) ⟨request, .ok value⟩) :
    Performs (φ := φ) (Procedure.ask channel.recorded request) {[call]} before
      fun value trace => trace = before ++ [⟨request, .ok value⟩] := by
  rintro host rfl
  obtain ⟨outcome, links, asked⟩ := outcome_ask_recorded channel request host
  cases outcome with
  | ok value =>
      apply (Procedure.ensures_of_ok asked).mpr
      exact ⟨⟨[call], rfl, .next .nothing asks (succeeds value)⟩, rfl⟩
  | error fault =>
      apply (Procedure.ensures_of_error asked).mpr
      exact ⟨[call], rfl, .stop .nothing asks (fault?_error call request fault)⟩

theorem performs_requireIndex (channel : LinkChannel κ) (context name : String)
    (before : List Exchange) :
    Performs (φ := φ) (requireIndex channel.recorded context name) {[.find context name]} before
      fun index trace => trace = before ++ [⟨.indexOf name, .ok (some index)⟩] := by
  rintro host rfl
  obtain ⟨outcome, links, asked⟩ := outcome_ask_recorded channel (.indexOf name) host
  cases outcome with
  | error fault =>
      apply (Procedure.ensures_of_error (Procedure.outcome_bind_error asked _)).mpr
      exact ⟨[.find context name], rfl, .stop .nothing rfl rfl⟩
  | ok found =>
      cases found with
      | none =>
          apply (Procedure.ensures_of_error (Procedure.outcome_bind_ok asked _)).mpr
          exact ⟨[.find context name], rfl, .stop .nothing rfl rfl⟩
      | some index =>
          apply (Procedure.ensures_of_ok (Procedure.outcome_bind_ok asked _)).mpr
          exact ⟨⟨[.find context name], rfl, .next .nothing rfl rfl⟩, rfl⟩

/-- The question whether something is so already, and the calls that see to it if it is not. -/
def unlessSo (question : Bool → NamedCall) (calls : List NamedCall) : Language NamedCall :=
  {[question true], question false :: calls}

@[simp]
theorem possible_unlessSo (question : Bool → NamedCall) (calls : List NamedCall) :
    Possible (unlessSo question calls) :=
  ⟨[question true], .inl rfl⟩

theorem performs_unless (channel : LinkChannel κ) (question : Bool → NamedCall)
    (request : LinkRequest) {next : request.Answer → Action (κ × List Exchange) φ α}
    {calls : List NamedCall} (isSo : request.Answer → Bool)
    (asks : ∀ so, (question so).request? (latest before) = some request)
    (succeeds : ∀ value, (question (isSo value)).Succeeds (latest before) ⟨request, .ok value⟩)
    {after : α → List Exchange → Prop}
    (goesOn : ∀ value, Performs (next value) {if isSo value then [] else calls}
      (before ++ [⟨request, .ok value⟩]) after) :
    Performs (Procedure.ask channel.recorded request >>= next) (unlessSo question calls) before
      after := by
  rintro host rfl
  obtain ⟨outcome, links, asked⟩ := outcome_ask_recorded channel request host
  have member : ∀ so, question so :: (if so then [] else calls) ∈ unlessSo question calls := by
    intro so
    cases so with
    | true => exact .inl rfl
    | false => exact .inr rfl
  cases outcome with
  | error fault =>
      apply (Procedure.ensures_of_error (Procedure.outcome_bind_error asked _)).mpr
      exact ⟨_, member true, .stop .nothing (asks true) (fault?_error _ request fault)⟩
  | ok value =>
      have carried : Carries host.links.2 [question (isSo value)]
          (host.links.2 ++ [⟨request, .ok value⟩]) :=
        .next .nothing (asks (isSo value)) (succeeds value)
      rw [Procedure.Ensures, Procedure.outcome_bind_ok asked]
      apply (goesOn value _ rfl).mono
      · rintro result later ⟨⟨order, rfl, carries⟩, ended⟩
        exact ⟨⟨_, member (isSo value), carried.trans carries⟩, ended⟩
      · rintro fault later ⟨order, rfl, breaks⟩
        exact ⟨_, member (isSo value), carried.breaks breaks⟩

end Performing

section Order

def bridgeOrder (topology : Topology) (address : Cidr) : Language NamedCall :=
  unlessSo (.seek topology.bridge)
    [.createBridge topology.bridge,
      .find "Failed to resolve ifindex for bridge" topology.bridge,
      .setUp topology.bridge,
      .addAddress topology.bridge address]

def vxlanOrder (topology : Topology) (uplink : String) : Language NamedCall :=
  unlessSo (.seek topology.vxlan.name)
    [.find "Failed to resolve ifindex for uplink" uplink,
      .createVxlan topology.vxlan uplink,
      .find "Failed to resolve ifindex for vxlan" topology.vxlan.name,
      .setUp topology.vxlan.name]

/-- The calls that make the pair of devices of a container and move one of them. -/
def pairOrder (target : Path) (interface : String) (names : Device.Names) : Language NamedCall :=
  {[.createPair names.host names.transient,
    .find "Failed to resolve ifindex for transient veth" names.transient,
    .moveInto names.transient target interface]}

/-- The calls that make a device belong to the bridge. -/
def joinOrder (topology : Topology) (name : String) : Language NamedCall :=
  {[.find "Failure filling bridge information from kernel" topology.bridge]} *
    unlessSo (.masterOf name topology.bridge) [.setMaster name topology.bridge]

/-- The calls of an attachment, in the order in which they are made. -/
def attachOrder (topology : Topology) (wiring : Wiring) : Language NamedCall :=
  let names := wiring.attachment.names
  let interface := wiring.attachment.interfaceName
  let target : Path := ⟨wiring.attachment.namespacePath⟩
  topology.bridgeOrder wiring.bridgeCidr *
    topology.vxlanOrder wiring.uplink *
    pairOrder target interface names *
    {[.configureIn target interface wiring.containerCidr wiring.bridgeCidr.address]} *
    {[.find "Failure filling rtnl_link information from kernel" names.host, .setUp names.host]} *
    topology.joinOrder names.host *
    {[.find "Failure filling vxlan information from kernel" topology.vxlan.name]} *
    topology.joinOrder topology.vxlan.name

variable (topology : Topology) (channel : LinkChannel κ) (before : List Exchange)

theorem performs_ensureBridge (address : Cidr) :
    Performs (φ := φ) (topology.ensureBridge channel.recorded address)
      (topology.bridgeOrder address) before fun _ _ => True := by
  apply performs_unless channel (.seek topology.bridge) (.indexOf topology.bridge) Option.isSome
    (fun _ => rfl) (fun _ => rfl)
  intro found
  cases found with
  | some index => exact performs_pure trivial
  | none =>
      apply (performs_ask channel (.createBridge topology.bridge) (.createBridge topology.bridge)
        rfl fun _ => rfl).append
      intro _ trace _
      apply (performs_requireIndex channel _ topology.bridge trace).append
      rintro index _ rfl
      apply (performs_ask channel (.setUp topology.bridge) (.setUp index)
        (by simp [NamedCall.request?, learn]) fun _ => rfl).append
      rintro _ _ rfl
      apply (performs_ask channel (.addAddress topology.bridge address) (.addAddress index address)
        (by simp [NamedCall.request?, learn]) fun _ => rfl).append
      intro _ trace _
      exact performs_inform _ trivial

theorem performs_ensureVxlan (uplink : String) :
    Performs (φ := φ) (topology.ensureVxlan channel.recorded uplink)
      (topology.vxlanOrder uplink) before fun _ _ => True := by
  apply performs_unless channel (.seek topology.vxlan.name) (.indexOf topology.vxlan.name)
    Option.isSome (fun _ => rfl) (fun _ => rfl)
  intro found
  cases found with
  | some index => exact performs_pure trivial
  | none =>
      apply (performs_requireIndex channel _ uplink _).append
      rintro carrier _ rfl
      apply (performs_ask channel (.createVxlan topology.vxlan uplink)
        (.createVxlan topology.vxlan carrier) (by simp [NamedCall.request?, learn])
        fun _ => rfl).append
      intro _ trace _
      apply (performs_requireIndex channel _ topology.vxlan.name trace).append
      rintro index _ rfl
      apply (performs_ask channel (.setUp topology.vxlan.name) (.setUp index)
        (by simp [NamedCall.request?, learn]) fun _ => rfl).append
      intro _ trace _
      exact performs_inform _ trivial

theorem performs_createPair (target : Path) (interface : String) (names : Device.Names) :
    Performs (φ := φ) (createPair channel.recorded target interface names)
      (pairOrder target interface names) before fun _ _ => True := by
  apply (performs_ask channel (.createPair names.host names.transient)
    (.createPair names.host names.transient) rfl fun _ => rfl).append
  intro _ trace _
  apply (performs_requireIndex channel _ names.transient trace).append
  rintro peer _ rfl
  apply (performs_ask channel (.moveInto names.transient target interface)
    (.moveInto peer target interface) (by simp [NamedCall.request?, learn]) fun _ => rfl).append
  intro _ trace _
  exact performs_inform _ trivial

theorem performs_configureContainer (target : Path) (interface : String)
    (containerCidr bridgeCidr : Cidr) :
    Performs (φ := φ)
      (configureContainer channel.recorded target interface containerCidr bridgeCidr)
      {[.configureIn target interface containerCidr bridgeCidr.address]} before
      fun _ _ => True := by
  apply (performs_ask channel (.configureIn target interface containerCidr bridgeCidr.address)
    (.configureIn target interface containerCidr bridgeCidr.address) rfl fun _ => rfl).append
  intro _ trace _
  exact performs_inform _ trivial

theorem performs_enslave {name : String} {index : Nat} (apart : name ≠ topology.bridge)
    (numbered : latest before name = some index) :
    Performs (φ := φ) (topology.enslave channel.recorded index) (topology.joinOrder name) before
      fun _ _ => True := by
  apply (performs_requireIndex channel _ topology.bridge before).bind (possible_unlessSo _ _)
  rintro bridge _ rfl
  apply performs_unless channel (.masterOf name topology.bridge) (.masterOf index)
    (fun master : Option Nat => decide (master = some bridge))
  case asks =>
    -- The lookup of the bridge does not touch what is known of a device with another name.
    intro joined
    simp [NamedCall.request?, learn, Function.update_of_ne apart, numbered]
  case succeeds =>
    intro master
    simp [NamedCall.Succeeds, learn]
  case goesOn =>
    intro master
    by_cases joined : master = some bridge
    · simp only [joined, if_true, decide_true]
      exact performs_pure trivial
    · simp only [joined, if_false, decide_false]
      apply (performs_ask channel (.setMaster name topology.bridge) (.setMaster index bridge) ?_
        fun _ => rfl).weaken fun _ _ _ => trivial
      simp [NamedCall.request?, learn, Function.update_of_ne apart, numbered]

@[simp]
theorem possible_joinOrder (name : String) : Possible (topology.joinOrder name) := by
  simp [joinOrder]

theorem performs_enableAndEnslave {name : String} (apart : name ≠ topology.bridge) :
    Performs (φ := φ) (topology.enableAndEnslave channel.recorded name)
      ({[.find "Failure filling rtnl_link information from kernel" name, .setUp name]} *
        topology.joinOrder name) before fun _ _ => True := by
  have split : ({[.find "Failure filling rtnl_link information from kernel" name, .setUp name]} :
      Language NamedCall) = {[.find "Failure filling rtnl_link information from kernel" name]} *
        {[.setUp name]} := (singleton_mul [_] [_]).symm
  rw [split, mul_assoc]
  apply (performs_requireIndex channel _ name before).bind (by simp)
  rintro index _ rfl
  apply (performs_ask channel (.setUp name) (.setUp index) (by simp [NamedCall.request?, learn])
    fun _ => rfl).bind (topology.possible_joinOrder name)
  rintro _ _ rfl
  exact topology.performs_enslave channel _ apart (by simp [learn])

theorem performs_enslaveVxlan (apart : topology.vxlan.name ≠ topology.bridge) :
    Performs (φ := φ) (topology.enslaveVxlan channel.recorded)
      ({[.find "Failure filling vxlan information from kernel" topology.vxlan.name]} *
        topology.joinOrder topology.vxlan.name) before fun _ _ => True := by
  apply (performs_requireIndex channel _ topology.vxlan.name before).bind
    (topology.possible_joinOrder _)
  rintro index _ rfl
  exact topology.performs_enslave channel _ apart (by simp [learn])

theorem performs_wiring {wiring : Wiring}
    (hostApart : wiring.attachment.names.host ≠ topology.bridge)
    (vxlanApart : topology.vxlan.name ≠ topology.bridge) :
    Performs (φ := φ)
      (do
        topology.ensureBridge channel.recorded wiring.bridgeCidr
        topology.ensureVxlan channel.recorded wiring.uplink
        topology.connect channel.recorded wiring)
      (topology.attachOrder wiring) before fun names _ => names = wiring.attachment.names := by
  simp only [attachOrder, mul_assoc]
  apply (topology.performs_ensureBridge channel before wiring.bridgeCidr).bind
    (by simp [vxlanOrder, pairOrder])
  intro _ trace _
  apply (topology.performs_ensureVxlan channel trace wiring.uplink).bind
    (by simp [pairOrder])
  intro _ trace _
  apply (performs_createPair channel trace _ _ wiring.attachment.names).bind (by simp)
  intro _ trace _
  apply (performs_configureContainer channel trace _ _ wiring.containerCidr
    wiring.bridgeCidr).bind (by simp)
  intro _ trace _
  rw [← mul_assoc]
  apply (topology.performs_enableAndEnslave channel trace hostApart).bind (by simp)
  intro _ trace _
  rw [← mul_one (_ * topology.joinOrder _)]
  apply (topology.performs_enslaveVxlan channel trace vxlanApart).bind (possible_singleton [])
  intro _ trace _
  exact performs_pure rfl

/-- Whatever the channel answers, the calls of an attachment follow one order, in which the shared
devices are created only if they are missing and devices are given to the bridge only if they do not
belong to it. All calls of such an order are carried out if the attachment succeeds. Otherwise the
last call is the first one that fails or does not find a device that must be there, and this is the
fault that is reported. The numbers in each call are those that the last lookups of the devices have
found. If the namespace does not open, there is no call at all. That calls are recorded makes no
difference to the attachment. -/
theorem attach_call_order (topology : Topology) (channel : LinkChannel κ) (wiring : Wiring)
    (host : Host κ φ) (hostApart : wiring.attachment.names.host ≠ topology.bridge)
    (vxlanApart : topology.vxlan.name ≠ topology.bridge) :
    ∃ result later,
      (topology.attach channel.recorded wiring).outcome host.recording = (result, later) ∧
      (topology.attach channel wiring).outcome host = (result, later.forget) ∧
      (∀ cause, Namespace.nodeAt ⟨wiring.attachment.namespacePath⟩ host.files = .error cause →
        (∃ fault, result = .error fault) ∧ later.links.2 = []) ∧
      ∀ node, Namespace.nodeAt ⟨wiring.attachment.namespacePath⟩ host.files = .ok node →
        ∃ order ∈ topology.attachOrder wiring,
          result = .ok wiring.attachment.names ∧ Carries [] order later.links.2 ∨
            ∃ fault, result = .error fault ∧ Breaks [] order later.links.2 fault := by
  rcases computed : (topology.attach channel.recorded wiring).outcome host.recording with
    ⟨result, later⟩
  have plain := topology.records_attach channel wiring host
  rw [computed] at plain
  refine ⟨result, later, rfl, plain, ?closed, ?opened⟩
  case closed =>
    intro cause closed
    have closedRecording : Namespace.nodeAt ⟨wiring.attachment.namespacePath⟩
        host.recording.files = .error cause := closed
    obtain ⟨fault, failed⟩ :=
      outcome_attach_of_error topology channel.recorded closedRecording
    obtain ⟨rfl, rfl⟩ := Prod.mk.inj (computed.symm.trans failed)
    exact ⟨⟨fault, rfl⟩, rfl⟩
  case opened =>
    intro node opened
    have openedRecording : Namespace.nodeAt ⟨wiring.attachment.namespacePath⟩
        host.recording.files = .ok node := opened
    rw [outcome_attach openedRecording] at computed
    rcases (topology.performs_wiring channel [] hostApart vxlanApart host.recording rfl).cases with
      ⟨fault, last, failed, order, member, breaks⟩ |
        ⟨names, last, done, ⟨order, member, carries⟩, named⟩
    · obtain ⟨rfl, rfl⟩ := Prod.mk.inj (computed.symm.trans failed)
      exact ⟨order, member, .inr ⟨fault, rfl, breaks⟩⟩
    · obtain ⟨rfl, rfl⟩ := Prod.mk.inj (computed.symm.trans done)
      exact ⟨order, member, .inl ⟨congrArg Except.ok named, carries⟩⟩

theorem attach_call_order_first :
    firstWiring.attachment.names.host ≠ usualTopology.bridge ∧
      usualTopology.vxlan.name ≠ usualTopology.bridge ∧
      ∃ order ∈ usualTopology.attachOrder firstWiring, Carries [] order
        ((usualTopology.attach Simulation.answer.recorded firstWiring).outcome
          bareHost.recording).2.links.2 := by
  have hostApart : firstWiring.attachment.names.host ≠ usualTopology.bridge := by decide +kernel
  have vxlanApart : usualTopology.vxlan.name ≠ usualTopology.bridge := by decide
  refine ⟨hostApart, vxlanApart, ?_⟩
  obtain ⟨result, later, recorded, plain, -, opened⟩ := attach_call_order usualTopology
    Simulation.answer firstWiring bareHost hostApart vxlanApart
  have succeeds : ((usualTopology.attach Simulation.answer firstWiring).outcome bareHost).1 =
      .ok firstWiring.attachment.names := by
    decide +kernel
  rw [plain] at succeeds
  obtain ⟨order, member, ⟨-, carries⟩ | ⟨fault, failed, -⟩⟩ := opened _ rfl
  · exact ⟨order, member, by rwa [recorded]⟩
  · cases succeeds.symm.trans failed

end Order

end OverlayNet.Topology
