import RosrustAsync.XmlRpc

namespace RosrustAsync

open Prog XmlRpc

structure RosSlaveClient where
  callerId : String

namespace RosSlaveClient

variable {D : Dxr} (X : Xml D.Value) {A : Type} {R : A → Type}
  (post : String → Prog A R (Except String String))

def call {β : Type} (method : String) (params : List D.Value) (c : Conversion D.Value DxrError β) :
    ExceptT SlaveClientError (Prog A R) β :=
  typedCall X .client .dxr post method params c.ofValue

variable (self : RosSlaveClient)

def callerIdParams (D : Dxr) : List D.Value := (D.members₁ D.string).toValue self.callerId

def getMasterUri : ExceptT SlaveClientError (Prog A R) String :=
  call X post "getMasterUri" (self.callerIdParams D) D.string

def shutdown (reason : String) : ExceptT SlaveClientError (Prog A R) Unit := do
  let _ ← call X post "shutdown" ((D.members₂ D.string D.string).toValue (self.callerId, reason)) D.i4

def getPid : ExceptT SlaveClientError (Prog A R) Int32 :=
  call X post "getPid" (self.callerIdParams D) D.i4

def getSubscriptions : ExceptT SlaveClientError (Prog A R) (List (String × String)) :=
  call X post "getSubscriptions" (self.callerIdParams D)
    (D.vec (D.tuple (D.members₂ D.string D.string)))

def getPublications : ExceptT SlaveClientError (Prog A R) (List (String × String)) :=
  call X post "getPublications" (self.callerIdParams D)
    (D.vec (D.tuple (D.members₂ D.string D.string)))

/-- What `value` is converted to may be an error. -/
def paramUpdate (paramName : String) (value : Except DxrError D.Value) :
    ExceptT SlaveClientError (Prog A R) Unit := do
  let value ← ofExcept (value.mapError SlaveClientError.dxr)
  let _ ← call X post "paramUpdate"
    ((D.members₃ D.string D.string .self).toValue (self.callerId, paramName, value)) D.i4

def paramUpdateAny (paramName : String) (value : D.Value) :
    ExceptT SlaveClientError (Prog A R) Unit :=
  self.paramUpdate X post paramName (.ok value)

def publisherUpdate (topicName : String) (publishers : List String) :
    ExceptT SlaveClientError (Prog A R) Unit := do
  let _ ← call X post "publisherUpdate"
    ((D.members₃ D.string D.string (D.vec D.string)).toValue (self.callerId, topicName, publishers))
    D.i4

/-- The `match` at the end of `request_topic`. -/
def requestTopicResult (D : Dxr) {T : Type} :
    Except SlaveClientError T → Except SlaveClientError (Option T)
  | .ok protocolInfo => .ok (some protocolInfo)
  | .error (.client (.api (.serverError _))) => .ok none
  | .error (.client (.dxr e)) => if D.argument e = some 0 then .ok none else .error (.client (.dxr e))
  | .error e => .error e

def requestTopic {T : Type} (c : Conversion D.Value DxrError T) (topicName : String)
    (protocols : List (List String)) : ExceptT SlaveClientError (Prog A R) (Option T) := do
  let result ← attempt (call X post "requestTopic"
    ((D.members₃ D.string D.string (D.vec (D.vec D.string))).toValue
      (self.callerId, topicName, protocols)) c)
  ofExcept (requestTopicResult D result)

end RosSlaveClient

end RosrustAsync
