import AvdeccLib.Library.Worklist
import AvdeccLib.ReadCompleted

namespace AvdeccLib
set_option autoImplicit true

open Worklist

/-- The AEM tree of a station as its READ_DESCRIPTOR responses show it: ENTITY, the
CONFIGURATIONs and the objects of the current one. Every name in it is that of a descriptor of a
type that the library implements. -/
structure AemTree where
  entity : AemDesc
  configurationsCount : BitVec 16
  configuration : BitVec 16 → AemDesc
  object : DescType → BitVec 16 → AemDesc
  entity_ok : entity.descriptorType = .entity ∧ entity.readOk = true
  current_lt : entity.currentConfiguration < configurationsCount
  configuration_ok : ∀ i, (configuration i).descriptorType = .configuration ∧
    (configuration i).descriptorIndex = i ∧ (configuration i).readOk = true ∧
    (configuration i).layoutOk = true ∧ (configuration i).descriptorCounts.length ≤ 108
  object_ok : ∀ t i, t.stored = true → (object t i).descriptorType = t ∧
    (object t i).descriptorIndex = i ∧ (object t i).readOk = true ∧ (object t i).layoutOk = true
  counts_stored : ∀ i, ∀ c ∈ (configuration i).descriptorCounts, c.1.stored = true

abbrev Node := DescType × BitVec 16

/-- The indexes from the base on, as many as the number says. -/
def DescRange.indexes (r : DescRange) : Set (BitVec 16) :=
  { i | ∃ k, k < r.number.toNat ∧ i = r.base + BitVec.ofNat 16 k }

def nodesOf (l : List (DescType × DescRange)) : Set Node :=
  { x | ∃ p ∈ l, p.1 = x.1 ∧ x.2 ∈ p.2.indexes }

namespace AemDesc

def ports (d : AemDesc) : List (DescType × DescRange) :=
  [(.streamPortInput, d.streamInputPorts), (.streamPortOutput, d.streamOutputPorts),
    (.externalPortInput, d.externalInputPorts), (.externalPortOutput, d.externalOutputPorts)]

def portRanges (d : AemDesc) : List (DescType × DescRange) :=
  [(.control, d.controls), (.audioCluster, d.clusters), (.audioMap, d.maps)]

def ranges (d : AemDesc) : List (DescType × DescRange) :=
  match d.descriptorType with
  | .audioUnit => d.ports ++ [(.control, d.controls)]
  | .streamPortInput | .streamPortOutput => d.portRanges
  | .locale => [(.strings, d.strings)]
  | _ => []

/-- The ranges that the library reads for it: those of the control blocks of an AUDIO_UNIT, and
STRINGS from 0 on for a LOCALE. -/
def readRanges (d : AemDesc) : List (DescType × DescRange) :=
  match d.descriptorType with
  | .audioUnit => d.ports ++ [(.control, d.controlBlocks)]
  | .streamPortInput | .streamPortOutput => d.portRanges
  | .locale => [(.strings, ⟨0, d.strings.number⟩)]
  | _ => []

end AemDesc

namespace AemTree

def read (tree : AemTree) : DescType → BitVec 16 → AemDesc
  | .entity, _ => tree.entity
  | .configuration, i => tree.configuration i
  | t, i => tree.object t i

/-- The descriptors that the counts of the current configuration name. -/
def roots (tree : AemTree) : Set Node :=
  nodesOf ((tree.configuration tree.entity.currentConfiguration).descriptorCounts.map
    fun c => (c.1, ⟨0, c.2⟩))

def names (tree : AemTree) (x : Node) : Set Node := nodesOf (tree.object x.1 x.2).ranges

/-- The descriptors of the current configuration. -/
def Named (tree : AemTree) : Set Node := Reach tree.roots tree.names

def mayRead (tree : AemTree) (x : Node) : Set Node := nodesOf (tree.object x.1 x.2).readRanges

/-- What it reads for it in whatever order the responses come: it takes the number of STRINGS
from the first LOCALE that is stored. -/
def mustRead (tree : AemTree) (x : Node) : Set Node :=
  if x.1 = .locale ∧ x.2 ≠ 0 then ∅ else tree.mayRead x

/-- The control blocks of the AUDIO_UNITs name the same CONTROLs as their controls on the whole,
and the STRINGS are those from 0 on that LOCALE 0 counts, and no LOCALE counts more. -/
def ReadsNamed (tree : AemTree) : Prop :=
  Reach tree.roots tree.mayRead ⊆ tree.Named ∧ tree.Named ⊆ Reach tree.roots tree.mustRead

/-- The station holds the current configuration and its descriptors: each that is named once,
and no other. -/
def HeldBy (tree : AemTree) (es : EndStation) : Prop :=
  ∃ e cd, es.entityDescVec = [e] ∧ e.desc = tree.entity ∧ es.currentConfig = some cd ∧
    cd.desc = tree.configuration tree.entity.currentConfiguration ∧
    ∀ t, ((cd.descVec t).map AemDesc.descriptorIndex).Nodup ∧
      ∀ d, d ∈ cd.descVec t ↔ ∃ i, (t, i) ∈ tree.Named ∧ d = tree.object t i

end AemTree

namespace Enumeration

/-- A read that was sent: the constructor sends the one of ENTITY. -/
def Asked (s : Enumeration) (t : DescType) (i : BitVec 16) : Prop :=
  t = .entity ∧ i = 0 ∧ s.station.entityDescVec = [] ∨
  ∃ p ∈ s.station.issued, p.1.type = t ∧ p.1.index = i

/-- The reads are answered with SUCCESS, in time and in any order. -/
def Answered (tree : AemTree) (s : Enumeration) : StationEvent → Prop
  | .rcvdDescriptor _ status d => status = 0 ∧ ∃ t i, Asked s t i ∧ d = tree.read t i
  | .timeTick now => ∀ b ∈ s.station.backgroundReadInflight, b.timer.timeout now = false

/-- No response of a stream port whose index is stored comes in: it would be stored twice. -/
def StreamPortsOnce (s : Enumeration) : StationEvent → Prop
  | .rcvdDescriptor _ _ d =>
    d.descriptorType = .streamPortInput ∨ d.descriptorType = .streamPortOutput →
      ∀ cd, s.station.currentConfig = some cd →
        ∀ p ∈ cd.descVec d.descriptorType, p.descriptorIndex ≠ d.descriptorIndex
  | .timeTick _ => True

end Enumeration
end AvdeccLib
