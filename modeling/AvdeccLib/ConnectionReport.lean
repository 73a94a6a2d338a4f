import AvdeccLib.ConnectRx
import AvdeccLib.Library.Keyed

namespace AvdeccLib
set_option autoImplicit true

/-- What `get_rx_state_connection_count` and `get_rx_state_stream_id` return for an input, or
`get_tx_state_connection_count` and `get_tx_state_stream_id` for an output. -/
structure StreamState where
  connectionCount : BitVec 16
  streamId : BitVec 64

/-- The states of the inputs and of the outputs, by the index of the end station and the index
in its current configuration. -/
structure StreamStates where
  rx : Nat → Nat → StreamState
  tx : Nat → Nat → StreamState

/-- A stream in the loops over the end stations and the streams of each. -/
structure StreamAt where
  endStationIndex : Nat
  endStation : EndStation
  streamIndex : Nat

namespace StreamStates

def rxState (states : StreamStates) (instream : StreamAt) : StreamState :=
  states.rx instream.endStationIndex instream.streamIndex

def txState (states : StreamStates) (outstream : StreamAt) : StreamState :=
  states.tx outstream.endStationIndex outstream.streamIndex

end StreamStates

/-- A line `talker[index] -> listener[index]`. -/
structure ConnectionLine where
  talkerEntityId : EntityId
  talkerIndex : Nat
  listenerEntityId : EntityId
  listenerIndex : Nat
  deriving DecidableEq

namespace CmdLine

/-- `get_current_entity_and_descriptor` of the end station with the index. -/
def getCurrentEntityAndDescriptor (c : CmdLine) (i : Nat) (endStation : EndStation) :
    Option ConfigurationDescriptor := do
  let entity ← endStation.entityDescVec[(c.selection i).entityIndex.toNat]?
  entity.getConfigDescByIndex (c.selection i).configIndex

/-- The loop over the streams of an end station. One without a current configuration is passed
over. -/
def endStationStreams (c : CmdLine) (t : DescType) (endStation : EndStation) (i : Nat) :
    List StreamAt :=
  match c.getCurrentEntityAndDescriptor i endStation with
  | none => []
  | some descriptor => (List.range (descriptor.descVec t).length).map fun j =>
    ⟨i, endStation, j⟩

def streams (c : CmdLine) (t : DescType) : List StreamAt :=
  c.controller.endStationVec.zipIdx.flatMap fun x => c.endStationStreams t x.1 x.2

/-- The innermost loop body. The index of the input is printed with the talker and that of the
output with the listener. -/
def reportOutput (states : StreamStates) (instream outstream : StreamAt) :
    List ConnectionLine :=
  if (states.txState outstream).connectionCount = 0 ∨
      (states.rxState instream).streamId ≠ (states.txState outstream).streamId then []
  else
    [⟨outstream.endStation.entityId, instream.streamIndex, instream.endStation.entityId,
      outstream.streamIndex⟩]

def reportInput (c : CmdLine) (states : StreamStates) (instream : StreamAt) :
    List ConnectionLine :=
  if (states.rxState instream).connectionCount = 0 then []
  else (c.streams .streamOutput).flatMap (reportOutput states instream)

/-- The report part of `cmd_show_connections`: what it prints. -/
def reportConnections (c : CmdLine) (states : StreamStates) : List ConnectionLine :=
  (c.streams .streamInput).flatMap (c.reportInput states)

/-- The stream is one of the current configuration of its end station. -/
def HasStream (c : CmdLine) (t : DescType) (x : StreamAt) : Prop :=
  c.controller.endStationVec[x.endStationIndex]? = some x.endStation ∧
    ∃ descriptor, c.getCurrentEntityAndDescriptor x.endStationIndex x.endStation =
      some descriptor ∧ x.streamIndex < (descriptor.descVec t).length

/-- Both ends are connected, and to the same stream. -/
def Linked (states : StreamStates) (instream outstream : StreamAt) : Prop :=
  (states.rxState instream).connectionCount ≠ 0 ∧
    (states.txState outstream).connectionCount ≠ 0 ∧
    (states.rxState instream).streamId = (states.txState outstream).streamId

/-- The line of an output and an input. -/
def lineOf (instream outstream : StreamAt) : ConnectionLine where
  talkerEntityId := outstream.endStation.entityId
  talkerIndex := outstream.streamIndex
  listenerEntityId := instream.endStation.entityId
  listenerIndex := instream.streamIndex

def IsConnection (c : CmdLine) (states : StreamStates) (x : ConnectionLine) : Prop :=
  ∃ instream outstream, c.HasStream .streamInput instream ∧
    c.HasStream .streamOutput outstream ∧
    Linked states instream outstream ∧ x = lineOf instream outstream

/-- What is printed are the connections, each of them once. -/
def ReportsConnections (c : CmdLine) (states : StreamStates) : Prop :=
  (∀ x, x ∈ c.reportConnections states ↔ c.IsConnection states x) ∧
    (c.reportConnections states).Nodup

end CmdLine

/-- The line with the indexes of its two streams exchanged. -/
def ConnectionLine.swapIndexes (x : ConnectionLine) : ConnectionLine :=
  ⟨x.talkerEntityId, x.listenerIndex, x.listenerEntityId, x.talkerIndex⟩

theorem ConnectionLine.swapIndexes_eq_iff {x y : ConnectionLine} :
    x = y.swapIndexes ↔ x.swapIndexes = y := by
  constructor
  · rintro rfl
    rfl
  · rintro rfl
    rfl

namespace CmdLine
variable {c : CmdLine} {states : StreamStates} {t : DescType} {x : ConnectionLine}
  {instream outstream s : StreamAt}

theorem mem_endStationStreams {es : EndStation} {i : Nat} :
    s ∈ c.endStationStreams t es i ↔ s.endStationIndex = i ∧ s.endStation = es ∧
      ∃ descriptor, c.getCurrentEntityAndDescriptor i es = some descriptor ∧
        s.streamIndex < (descriptor.descVec t).length := by
  rw [endStationStreams]
  cases c.getCurrentEntityAndDescriptor i es with
  | none =>
    constructor
    · intro h
      cases h
    · rintro ⟨-, -, descriptor, hd, -⟩
      cases hd
  | some descriptor =>
    rw [List.mem_map]
    constructor
    · rintro ⟨j, hj, rfl⟩
      exact ⟨rfl, rfl, descriptor, rfl, List.mem_range.1 hj⟩
    · rintro ⟨rfl, rfl, descriptor', hd, hj⟩
      cases hd
      exact ⟨s.streamIndex, List.mem_range.2 hj, rfl⟩

theorem mem_streams : s ∈ c.streams t ↔ c.HasStream t s := by
  rw [streams, List.mem_flatMap, HasStream]
  constructor
  · rintro ⟨⟨es, i⟩, hes, hs⟩
    obtain ⟨rfl, rfl, hd⟩ := mem_endStationStreams.1 hs
    exact ⟨List.mk_mem_zipIdx_iff_getElem?.1 hes, hd⟩
  · rintro ⟨hes, hd⟩
    exact ⟨(s.endStation, s.endStationIndex), List.mk_mem_zipIdx_iff_getElem?.2 hes,
      mem_endStationStreams.2 ⟨rfl, rfl, hd⟩⟩

/-- What a line tells of a stream. -/
def streamKey (s : StreamAt) : EntityId × Nat := (s.endStation.entityId, s.streamIndex)

theorem nodup_streams (hids : (c.controller.endStationVec.map EndStation.entityId).Nodup)
    (t : DescType) : ((c.streams t).map streamKey).Nodup := by
  have hmap : c.controller.endStationVec.zipIdx.map (fun x => x.1.entityId) =
      c.controller.endStationVec.map EndStation.entityId := by
    rw [← List.zipIdx_map_fst 0 c.controller.endStationVec, List.map_map, List.zipIdx_map_fst]
    rfl
  rw [← hmap] at hids
  rw [streams, List.map_flatMap]
  apply Keyed.nodup_flatMap Prod.fst hids
  · rintro ⟨es, i⟩ -
    rw [endStationStreams]
    cases c.getCurrentEntityAndDescriptor i es with
    | none => exact List.nodup_nil
    | some descriptor =>
      rw [List.map_map]
      apply List.nodup_range.map
      intro j j' hj
      exact (Prod.mk.inj hj).2
  · rintro ⟨es, i⟩ - k hk
    obtain ⟨s, hs, rfl⟩ := List.mem_map.1 hk
    obtain ⟨-, rfl, -⟩ := mem_endStationStreams.1 hs
    rfl

theorem mem_reportOutput :
    x ∈ reportOutput states instream outstream ↔
      (states.txState outstream).connectionCount ≠ 0 ∧
      (states.rxState instream).streamId = (states.txState outstream).streamId ∧
        x.swapIndexes = lineOf instream outstream := by
  rw [reportOutput]
  split
  · next h =>
    constructor
    · intro hx
      cases hx
    · rintro ⟨hcount, hid, -⟩
      exact h.elim (fun h => absurd h hcount) fun h => absurd hid h
  · next h =>
    rw [not_or, not_not] at h
    rw [List.mem_singleton]
    constructor
    · rintro rfl
      exact ⟨h.1, h.2, rfl⟩
    · rintro ⟨-, -, hx⟩
      exact ConnectionLine.swapIndexes_eq_iff.2 hx

theorem mem_reportInput :
    x ∈ c.reportInput states instream ↔ ∃ outstream, c.HasStream .streamOutput outstream ∧
      Linked states instream outstream ∧ x.swapIndexes = lineOf instream outstream := by
  rw [reportInput]
  split
  · next h =>
    constructor
    · intro hx
      cases hx
    · rintro ⟨outstream, -, hlinked, -⟩
      exact absurd h hlinked.1
  · next h =>
    rw [List.mem_flatMap]
    constructor
    · rintro ⟨outstream, hout, hx⟩
      obtain ⟨hcount, hid, hline⟩ := mem_reportOutput.1 hx
      exact ⟨outstream, mem_streams.1 hout, ⟨h, hcount, hid⟩, hline⟩
    · rintro ⟨outstream, hout, ⟨-, hcount, hid⟩, hline⟩
      exact ⟨outstream, mem_streams.2 hout, mem_reportOutput.2 ⟨hcount, hid, hline⟩⟩

theorem mem_reportConnections :
    x ∈ c.reportConnections states ↔ c.IsConnection states x.swapIndexes := by
  rw [reportConnections, List.mem_flatMap, IsConnection]
  constructor
  · rintro ⟨instream, hin, hx⟩
    obtain ⟨outstream, hout, hlinked, hline⟩ := mem_reportInput.1 hx
    exact ⟨instream, outstream, mem_streams.1 hin, hout, hlinked, hline⟩
  · rintro ⟨instream, outstream, hin, hout, hlinked, hline⟩
    exact ⟨instream, mem_streams.2 hin, mem_reportInput.2 ⟨outstream, hout, hlinked, hline⟩⟩

theorem nodup_reportConnections
    (hids : (c.controller.endStationVec.map EndStation.entityId).Nodup)
    (states : StreamStates) :
    (c.reportConnections states).Nodup := by
  rw [reportConnections]
  apply Keyed.nodup_flatMap (fun x => (x.listenerEntityId, x.talkerIndex))
    (nodup_streams hids .streamInput)
  · intro instream _
    rw [reportInput]
    split
    · exact List.nodup_nil
    · apply Keyed.nodup_flatMap (fun x => (x.talkerEntityId, x.listenerIndex))
        (nodup_streams hids .streamOutput)
      · intro outstream _
        rw [reportOutput]
        split
        · exact List.nodup_nil
        · exact List.nodup_singleton _
      · intro outstream _ x hx
        obtain ⟨-, -, hline⟩ := mem_reportOutput.1 hx
        rw [ConnectionLine.swapIndexes_eq_iff.2 hline]
        rfl
  · intro instream _ x hx
    obtain ⟨outstream, -, -, hline⟩ := mem_reportInput.1 hx
    rw [ConnectionLine.swapIndexes_eq_iff.2 hline]
    rfl

/-- The report is right exactly if with each connection the one with the indexes exchanged is
there as well. -/
theorem reportsConnections_iff
    (hids : (c.controller.endStationVec.map EndStation.entityId).Nodup)
    (states : StreamStates) :
    c.ReportsConnections states ↔
      ∀ x, c.IsConnection states x → c.IsConnection states x.swapIndexes := by
  constructor
  · intro h x hx
    exact mem_reportConnections.1 ((h.1 x).2 hx)
  · intro h
    refine ⟨?_, nodup_reportConnections hids states⟩
    intro x
    rw [mem_reportConnections]
    exact ⟨h x.swapIndexes, h x⟩

end CmdLine
end AvdeccLib
