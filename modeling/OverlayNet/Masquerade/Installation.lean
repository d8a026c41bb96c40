import OverlayNet.Masquerade.Transport

set_option autoImplicit false

/-! # Installing the masquerade rule

The batch is sent once, and its answers are judged: the first refusal is reported, and otherwise
every message of the batch that expects an answer must have got one. The rule is added each time. -/

namespace OverlayNet.Masquerade

variable {κ φ : Type}

def tableName : String := "sknf"

def chainName : String := "POSTROUTING"

/-- The number of the first message of a batch. -/
def firstSequence : UInt32 := 1

def refusalContext : String := "Failure configuring nftables"

/-- What the answers to a batch come to. -/
def verdict (batch : Batch) (answers : List Acknowledgement) : Except Fault Unit :=
  match answers.find? fun answer => answer.error ≠ 0 with
  | some refusal =>
      .error (.rejected refusalContext
        ("seq " ++ Decimal.text refusal.sequence.toNat ++ ": " ++
          (⟨-refusal.error⟩ : Os.Errno).description))
  | none =>
      if answers.length < batch.acknowledged.length then
        .error (.rejected refusalContext
          (Decimal.text answers.length ++ " of " ++ Decimal.text batch.acknowledged.length ++
            " messages acknowledged"))
      else .ok ()

def exchange (transport : Transport φ) (batch : Batch) : Action κ φ (List Acknowledgement) := do
  let host ← get
  let (outcome, filter) := transport batch host.filter
  set { host with filter }
  Procedure.ofExcept outcome

/-- Has traffic from the cluster masqueraded that leaves through the uplink. -/
def install (transport : Transport φ) (uplink : String) (cluster : Cidr) : Action κ φ Unit := do
  let request : Request := ⟨tableName, chainName, uplink, cluster⟩
  let batch := batch request firstSequence
  let answers ← exchange transport batch
  Procedure.ofExcept (verdict batch answers)
  Procedure.inform ("Installed masquerade for " ++ cluster.text ++ " via " ++ uplink ++ " in " ++
    tableName ++ "/" ++ chainName)

end OverlayNet.Masquerade
