import RosrustAsync.ParameterActor

namespace RosrustAsync

open Actor Prog

/-!
A node's parameter actor, the master with a flat map of parameters, and the `paramUpdate` calls on
their way from the master to the node. The other nodes are what they do at the master.
-/

structure ParameterNet (V : Type) where
  actor : World (ParameterActorState V) Empty (ParameterActorMsg V)
  params : AList fun _ : String => V
  subscribers : Finset String
  inFlight : List (String × V)

namespace ParameterNet

variable {V : Type}

def updateOf : ParameterActorMsg V → Option (String × V)
  | .updateCachedParam name value => some (name, value)
  | _ => none

def updates (self : ParameterNet V) : List (String × V) :=
  self.actor.mailbox.filterMap updateOf ++ self.inFlight

def pending (self : ParameterNet V) (name : String) : List V :=
  self.updates.filterMap fun update => if update.1 = name then some update.2 else none

def announce (self : ParameterNet V) (name : String) (value : V) : ParameterNet V :=
  if name ∈ self.subscribers then { self with inFlight := self.inFlight ++ [(name, value)] } else self

def serve (self : ParameterNet V) : ParameterCall V → ParameterNet V
  | .setParam name value => { self with params := self.params.insert name value }
  | .deleteParam name => { self with params := self.params.erase name }
  | .subscribeParam name => { self with subscribers := insert name self.subscribers }
  | .unsubscribeParam name => { self with subscribers := self.subscribers.erase name }
  | _ => self

inductive Outside (V : Type) : Type
  | request (m : ParameterActorMsg V)
  | set (name : String) (value : V)
  | delete (name : String)
  | deliver

section Steps

variable [DecidableEq V] (emptyStruct : V)

def notSet {α : Type} : Except MasterClientError α :=
  .error (.client (.api (.invalidRequest "Parameter is not set")))

def answers (self : ParameterNet V) : (c : ParameterCall V) → ParameterCall.Ans c
  | .getParam name =>
    match self.params.lookup name with
    | some value => .ok value
    | none => notSet
  | .setParam _ _ | .deleteParam _ => .ok 0
  | .searchParam name => if (self.params.lookup name).isSome then .ok name else notSet
  | .subscribeParam name => .ok ((self.params.lookup name).getD emptyStruct)
  | .unsubscribeParam _ => .ok 1
  | .hasParam name => .ok (self.params.lookup name).isSome
  | .getParamNames => .ok (self.params.entries.map Sigma.fst)

def served (self : ParameterNet V) (a : Act (ParameterActorState V) Empty (ParameterReply V)
    (ParameterCall V)) : ParameterNet V :=
  match a with
  | .call c => self.serve c
  | _ => self

/-- One action of the actor, whose calls the master answers and carries out at once. -/
def exec (m : ParameterActorMsg V)
    (a : Act (ParameterActorState V) Empty (ParameterReply V) (ParameterCall V))
    (self : ParameterNet V) : Option (Act.Res ParameterCall.Ans a × ParameterNet V) := do
  let (r, actor) ← Actor.exec (ParameterActor.behaviour emptyStruct) m (self.answers emptyStruct) a
    self.actor
  some (r, { self.served a with actor })

def outside (self : ParameterNet V) : Outside V → Option (ParameterNet V)
  | .request (.updateCachedParam _ _) => none
  | .request m => some { self with actor := { self.actor with mailbox := self.actor.mailbox ++ [m] } }
  | .set name value =>
    some ({ self with params := self.params.insert name value }.announce name value)
  | .delete name => some ({ self with params := self.params.erase name }.announce name emptyStruct)
  | .deliver =>
    match self.inFlight with
    | (name, value) :: inFlight =>
      some { self with
        actor := { self.actor with mailbox := self.actor.mailbox ++ [.updateCachedParam name value] }
        inFlight }
    | [] => none

def receive (self : ParameterNet V) : Option (ParameterActorMsg V × ParameterNet V) := do
  let (m, actor) ← Actor.receive self.actor
  some (m, { self with actor })

def process : Process (ParameterNet V) (Outside V) Unit (ParameterActorMsg V)
    (Act (ParameterActorState V) Empty (ParameterReply V) (ParameterCall V)) MessagingErr
    (Act.Res ParameterCall.Ans) where
  outside self l := self.outside emptyStruct l
  receive := receive
  handle m := (ParameterActor.handle emptyStruct m).run
  exec m _ a self := self.exec emptyStruct m a

end Steps

abbrev Config (V : Type) : Type :=
  Process.Config (ParameterNet V) (ParameterActorMsg V)
    (Act (ParameterActorState V) Empty (ParameterReply V) (ParameterCall V)) MessagingErr
    (Act.Res ParameterCall.Ans)

def init (params : AList fun _ : String => V) : Config V := ⟨⟨.init ⟨∅, ∅⟩, params, ∅, []⟩, .idle⟩

end ParameterNet

end RosrustAsync
