import AvdeccLib.Controller
import Mathlib.Logic.Function.Basic

namespace AvdeccLib
set_option autoImplicit true

/-- The members of a descriptor object that responses change: fields of its descriptor and the
response structs `aem_cmd_*_resp`, of which a class has those of its own commands. -/
structure ObjectState where
  currentFormat : BitVec 64
  currentSamplingRate : BitVec 32
  clockSourceIndex : BitVec 16
  resp : AemCommandType → Option AecpFrame

/-- An object is told from the other objects of its station by the type and the index of its
descriptor. -/
abbrev ObjectKey := DescType × BitVec 16

def AemDesc.key (d : AemDesc) : ObjectKey := (d.descriptorType, d.descriptorIndex)

/-- The state of each object of a station. -/
abbrev ObjectStates := ObjectKey → ObjectState

namespace ObjectState

/-- A new object. Its response structs hold no response. -/
def new (d : AemDesc) : ObjectState :=
  ⟨d.currentFormat, d.currentSamplingRate, d.clockSourceIndex, fun _ => none⟩

/-- The response struct of the frame's command type is filled in. -/
def storeResp (frame : AecpFrame) (s : ObjectState) : ObjectState :=
  { s with resp := Function.update s.resp frame.commandType (some frame) }

def updateStreamFormat (streamFormat : BitVec 64) (s : ObjectState) : ObjectState :=
  { s with currentFormat := streamFormat }

def updateSamplingRate (samplingRate : BitVec 32) (s : ObjectState) : ObjectState :=
  { s with currentSamplingRate := samplingRate }

def updateClockSourceIndex (clockSourceIndex : BitVec 16) (s : ObjectState) : ObjectState :=
  { s with clockSourceIndex }

end ObjectState

/-- What a handler does to the object that it is called on when it has read the frame. -/
abbrev ObjectUpdate := AecpFrame → ObjectState → ObjectState

/-- The handlers whose response struct is a local variable. -/
def noUpdate : ObjectUpdate := fun _ s => s

/-- A response that is stored and, if it is a success, also changes the descriptor. -/
def storeAndUpdate (update : ObjectUpdate) : ObjectUpdate := fun frame s =>
  let s := s.storeResp frame
  if frame.status = 0 then update frame s else s

/-- A member of one class only. -/
def updateOf (t : DescType) (update : ObjectUpdate) : ObjectUpdate := fun frame s =>
  if frame.descriptorType = t then update frame s else s

abbrev ObjectHandler :=
  AecpFrame → Globals → RxOut → ObjectState → Except Fault (Globals × RxOut × ObjectState)

/-- A handler with its object. A frame that is not read leaves the response struct as it was. -/
def withObject (handler : RespHandler AecpFrame) (update : ObjectUpdate) : ObjectHandler :=
  fun frame g out s => do
    let (g, out) ← handler frame g out
    pure (g, out, if frame.respReadOk then update frame s else s)

def acquireEntityObject : ObjectHandler :=
  withObject procAcquireEntityResp (updateOf .entity (storeAndUpdate noUpdate))
def lockEntityObject : ObjectHandler :=
  withObject procLockEntityResp (updateOf .entity (storeAndUpdate noUpdate))
def rebootObject : ObjectHandler := withObject procRebootResp (storeAndUpdate noUpdate)
def setStreamFormatObject : ObjectHandler :=
  withObject procSetStreamFormatResp (storeAndUpdate fun frame =>
    .updateStreamFormat frame.streamFormat)
def getStreamFormatObject : ObjectHandler :=
  withObject procGetStreamFormatResp (storeAndUpdate noUpdate)
def setStreamInfoObject : ObjectHandler :=
  withObject procSetStreamInfoResp (updateOf .streamOutput (storeAndUpdate noUpdate))
def getStreamInfoObject : ObjectHandler :=
  withObject procGetStreamInfoResp (storeAndUpdate noUpdate)
def setSamplingRateObject : ObjectHandler :=
  withObject procSetSamplingRateResp (storeAndUpdate fun frame =>
    .updateSamplingRate frame.samplingRate)
def getSamplingRateObject : ObjectHandler :=
  withObject procGetSamplingRateResp (storeAndUpdate noUpdate)
def setClockSourceObject : ObjectHandler :=
  withObject procSetClockSourceResp
    (storeAndUpdate fun frame => .updateClockSourceIndex frame.clockSourceIndex)
def getClockSourceObject : ObjectHandler :=
  withObject procGetClockSourceResp (storeAndUpdate noUpdate)
def startStreamingObject : ObjectHandler := withObject procStartStreamingResp noUpdate
def stopStreamingObject : ObjectHandler := withObject procStopStreamingResp noUpdate
def startOperationObject : ObjectHandler := withObject procStartOperationResp noUpdate
def operationStatusObject : ObjectHandler := withObject procOperationStatusResp noUpdate

abbrev StatesHandler :=
  AecpFrame → Globals → RxOut → ObjectStates → Except Fault (Globals × RxOut × ObjectStates)

/-- The part of a result without the states of the objects. -/
def erase (r : α × β × γ) : α × β := (r.1, r.2.1)

namespace EndStation

/-- A handler that has no object. -/
def onStation (handler : RespHandler AecpFrame) : StatesHandler := fun frame g out states => do
  let (g, out) ← handler frame g out
  pure (g, out, states)

/-- `onObject` with the states of the objects: the one that is found changes. -/
def onObjectStates (es : EndStation) (t : DescType) (index : BitVec 16)
    (handler : ObjectHandler) :
    StatesHandler := fun frame g out states => do
  match ← es.findObject t index with
  | some d =>
    let (g, out, s) ← handler frame g out (states d.key)
    pure (g, out, Function.update states d.key s)
  | none => pure (g, out, states)

def onTypesStates (es : EndStation) (types : List DescType) (handler : ObjectHandler) :
    StatesHandler := fun frame g out states =>
  if frame.descriptorType ∈ types then
    es.onObjectStates frame.descriptorType frame.descriptorIndex handler frame g out states
  else pure (g, out, states)

/-- `aemRespHandler` with the states of the objects. -/
def aemRespStates (es : EndStation) (frame : AecpFrame) : StatesHandler :=
  match frame.commandType with
  | .acquireEntity => es.onTypesStates [.entity, .streamInput, .streamOutput]
      acquireEntityObject
  | .lockEntity => es.onTypesStates [.entity, .streamInput, .streamOutput] lockEntityObject
  | .setStreamFormat => es.onTypesStates [.streamInput, .streamOutput] setStreamFormatObject
  | .getStreamFormat => es.onTypesStates [.streamInput, .streamOutput] getStreamFormatObject
  | .setStreamInfo => es.onTypesStates [.streamInput, .streamOutput] setStreamInfoObject
  | .getStreamInfo => es.onTypesStates [.streamInput, .streamOutput] getStreamInfoObject
  | .setSamplingRate => es.onTypesStates [.audioUnit] setSamplingRateObject
  | .getSamplingRate => es.onTypesStates [.audioUnit] getSamplingRateObject
  | .setClockSource => es.onObjectStates .clockDomain frame.descriptorIndex setClockSourceObject
  | .getClockSource => es.onObjectStates .clockDomain frame.descriptorIndex getClockSourceObject
  | .startStreaming => es.onTypesStates [.streamInput, .streamOutput] startStreamingObject
  | .stopStreaming => es.onTypesStates [.streamInput, .streamOutput] stopStreamingObject
  | .reboot => es.onTypesStates [.entity] rebootObject
  | .startOperation => es.onTypesStates [.memoryObject] startOperationObject
  | .operationStatus => es.onTypesStates [.memoryObject] operationStatusObject
  | .entityAvailable | .setName | .getName | .setControl | .readDescriptor
  | .controllerAvailable
  | .other _ => onStation (es.aemRespHandler frame)

/-- Whether a READ_DESCRIPTOR response makes a new object. -/
def constructs (es : EndStation) (status : BitVec 5) (d : AemDesc) : Bool :=
  es.storeDescriptor status d.descriptorType &&
    match d.descriptorType with
    | .entity => es.entityDescVec.isEmpty
    | .configuration => true
    | .other _ => false
    | _ => d.readOk

def procRcvdAemRespStates (now : Timestamp) (es : EndStation) (frame : AecpFrame) (g : Globals)
    (out : RxOut) (states : ObjectStates) :
    Except Fault (Globals × EndStation × RxOut × ObjectStates) :=
  if frame.commandType = .readDescriptor then do
    let (g, es', out) ← es.procReadDescResp now frame g out
    let d := frame.descriptor
    pure (g, es', out,
      if frame.respReadOk && es.constructs frame.status d then
        Function.update states d.key (.new d)
      else states)
  else do
    let (g, out, states) ← es.aemRespStates frame frame g out states
    pure (g, es, out, states)

end EndStation

/-- `rxAecp` with the states of the objects of each end station. -/
def Controller.rxAecpStates (now : Timestamp) (frame : AecpFrame) (c : Controller) (out : RxOut)
    (states : Nat → ObjectStates) : Except Fault (Controller × RxOut × (Nat → ObjectStates)) :=
  let found := c.findInEndStation frame.targetEntityId frame.controllerEntityId
  match frame.destMac == c.globals.macAddr, found with
  | true, some (es, i) =>
    if frame.messageType = .aemResponse ∧ frame.commandType ≠ .controllerAvailable then do
      let (globals, es, out, s) ← es.procRcvdAemRespStates now frame c.globals out (states i)
      pure ({ c with globals, endStationVec := c.endStationVec.set i es },
        { out with isNotificationIdValid := true }, Function.update states i s)
    else do
      let (c, out) ← c.rxAecp now frame out
      pure (c, out, states)
  | _, _ => do
    let (c, out) ← c.rxAecp now frame out
    pure (c, out, states)

theorem withObject_erase (handler : RespHandler AecpFrame) (update : ObjectUpdate)
    (frame : AecpFrame) (g : Globals) (out : RxOut) (s : ObjectState) :
    (withObject handler update frame g out s).map erase = handler frame g out := by
  unfold withObject
  cases handler frame g out with
  | error => rfl
  | ok => rfl

namespace EndStation

/-- The states of the objects are beside the rest: without them a handler is what it was. -/
def Erases (states : StatesHandler) (handler : RespHandler AecpFrame) : Prop :=
  ∀ frame g out s, (states frame g out s).map erase = handler frame g out

theorem erases_onStation (handler : RespHandler AecpFrame) :
    Erases (onStation handler) handler := by
  intro frame g out s
  unfold onStation
  cases handler frame g out with
  | error => rfl
  | ok => rfl

theorem erases_onObjectStates (es : EndStation) (t : DescType) (index : BitVec 16)
    (handler : RespHandler AecpFrame) (update : ObjectUpdate) :
    Erases (es.onObjectStates t index (withObject handler update))
    (es.onObject t index handler) := by
  intro frame g out s
  unfold onObjectStates onObject
  cases es.findObject t index with
  | error => rfl
  | ok d =>
    cases d with
    | none => rfl
    | some d =>
      have hw := withObject_erase handler update frame g out (s d.key)
      simp only [bind, Except.bind]
      rw [← hw]
      cases withObject handler update frame g out (s d.key) with
      | error => rfl
      | ok => rfl

theorem erases_onTypesStates (es : EndStation) (types : List DescType)
    (handler : RespHandler AecpFrame) (update : ObjectUpdate) :
    Erases (es.onTypesStates types (withObject handler update)) (es.onTypes types handler) := by
  intro frame g out s
  unfold onTypesStates onTypes
  split
  · exact erases_onObjectStates es _ _ handler update frame g out s
  · rfl

theorem erases_aemRespStates (es : EndStation) (frame : AecpFrame) :
    Erases (es.aemRespStates frame) (es.aemRespHandler frame) := by
  have htypes := fun types => es.erases_onTypesStates types
  unfold aemRespStates aemRespHandler
  cases frame.commandType with
  | acquireEntity | lockEntity | setStreamFormat | getStreamFormat
  | setStreamInfo | getStreamInfo
  | setSamplingRate | getSamplingRate | startStreaming | stopStreaming | reboot | startOperation
  | operationStatus => exact htypes _ _ _
  | setClockSource | getClockSource => exact es.erases_onObjectStates _ _ _ _
  | entityAvailable | setName | getName | setControl | readDescriptor | controllerAvailable
  | other => exact erases_onStation _

theorem procRcvdAemRespStates_erase (now : Timestamp) (es : EndStation) (frame : AecpFrame)
    (g : Globals) (out : RxOut) (states : ObjectStates) :
    (es.procRcvdAemRespStates now frame g out states).map (fun r => (r.1, r.2.1, r.2.2.1)) =
      es.procRcvdAemResp now frame g out := by
  rw [procRcvdAemRespStates, procRcvdAemResp]
  split
  · cases es.procReadDescResp now frame g out with
    | error => rfl
    | ok => rfl
  · have he := es.erases_aemRespStates frame frame g out states
    rw [← he]
    cases es.aemRespStates frame frame g out states with
    | error => rfl
    | ok => rfl

end EndStation

namespace Controller

/-- The states of the objects do not change what the controller does. -/
theorem rxAecpStates_erase (now : Timestamp) (frame : AecpFrame) (c : Controller) (out : RxOut)
    (states : Nat → ObjectStates) :
    (c.rxAecpStates now frame out states).map erase = c.rxAecp now frame out := by
  have hrest : (do let (c, out) ← c.rxAecp now frame out; pure (c, out, states)).map erase =
      c.rxAecp now frame out := by
    cases c.rxAecp now frame out with
    | error => rfl
    | ok => rfl
  rw [rxAecpStates]
  cases hd : frame.destMac == c.globals.macAddr with
  | false => exact hrest
  | true =>
    cases hf : c.findInEndStation frame.targetEntityId frame.controllerEntityId with
    | none => exact hrest
    | some found =>
      obtain ⟨es, i⟩ := found
      dsimp only
      split
      · next h =>
        have he := es.procRcvdAemRespStates_erase now frame c.globals out (states i)
        simp only [rxAecp, hd, hf, h.1, if_neg h.2, ← he]
        cases es.procRcvdAemRespStates now frame c.globals out (states i) with
        | error => rfl
        | ok => rfl
      · exact hrest

theorem rxPacketEvent_aecp {c : Controller} {frame : AecpFrame}
    (hd : frame.destMac = c.globals.macAddr) (now : Timestamp) (uninit : EntityId)
    (states : Nat → ObjectStates) :
    c.rxPacketEvent now uninit (.aecp frame) {} =
      (c.rxAecpStates now frame {} states).map erase := by
  have ha : c.accepts frame.destMac = true := by
    rw [accepts, hd, beq_self_eq_true, Bool.true_or]
  rw [rxAecpStates_erase, rxPacketEvent]
  exact if_pos ha

end Controller
end AvdeccLib
