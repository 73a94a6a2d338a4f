import AvdeccLib.Pdu
import AvdeccLib.Library.Outcome
import Mathlib.Data.List.Sort

namespace AvdeccLib
set_option autoImplicit true

/-- The ways in which the library stops: `std::out_of_range` from `vector::at`, a NULL object
that is dereferenced, and a failed `assert`. -/
inductive Fault where
  | outOfRange
  | nullPointer
  | assertion
  deriving DecidableEq

/-- `configuration_descriptor_imp`: the descriptor and one vector of objects for each type. -/
structure ConfigurationDescriptor where
  desc : AemDesc
  descVec : DescType → List AemDesc

structure EntityDescriptor where
  desc : AemDesc
  configDescVec : List ConfigurationDescriptor

/-- The types that `proc_read_desc_resp` stores in a configuration. -/
def DescType.stored : DescType → Bool
  | .entity | .configuration | .other _ => false
  | _ => true

/-- `add_or_replace_descriptor_and_sort`: descriptors are compared by their indexes. -/
def addOrReplaceDescriptorAndSort (d : AemDesc) (vec : List AemDesc) : List AemDesc :=
  match vec.findIdx? (fun n => n.descriptorIndex == d.descriptorIndex) with
  | some it => vec.set it d
  | none =>
    (vec ++ [d]).insertionSort fun a b => a.descriptorIndex ≤ b.descriptorIndex

namespace ConfigurationDescriptor

/-- The constructor, with the assertions that the initialisation of the two count vectors makes:
`descriptor_counts_count` is at most 108 and `descriptor_counts_offset` is 74. -/
def new (d : AemDesc) : Except Fault ConfigurationDescriptor :=
  if !d.readOk || 108 < d.descriptorCounts.length || !d.layoutOk then throw .assertion
  else pure ⟨d, fun _ => []⟩

/-- The `store_*_desc` family: stream ports are pushed to the back, all others replace the
descriptor with their index or are sorted in. -/
def storeDesc (cd : ConfigurationDescriptor) (d : AemDesc) : ConfigurationDescriptor :=
  let vec := cd.descVec d.descriptorType
  let vec' :=
    match d.descriptorType with
    | .streamPortInput | .streamPortOutput => vec ++ [d]
    | _ => addOrReplaceDescriptorAndSort d vec
  { cd with descVec := fun t => if t = d.descriptorType then vec' else cd.descVec t }

def getDescByIndex (cd : ConfigurationDescriptor) (t : DescType) (index : BitVec 16) :
    Option AemDesc :=
  (cd.descVec t)[index.toNat]?

end ConfigurationDescriptor

namespace EntityDescriptor

def new (d : AemDesc) : Except Fault EntityDescriptor :=
  if !d.readOk then throw .assertion else pure ⟨d, []⟩

def currentConfiguration (e : EntityDescriptor) : BitVec 16 := e.desc.currentConfiguration

def storeConfigDesc (e : EntityDescriptor) (d : AemDesc) : Except Fault EntityDescriptor := do
  let cd ← ConfigurationDescriptor.new d
  pure { e with configDescVec := e.configDescVec ++ [cd] }

def getConfigDescByIndex (e : EntityDescriptor) (index : BitVec 16) :
    Option ConfigurationDescriptor :=
  e.configDescVec[index.toNat]?

end EntityDescriptor

/-- The constructors of the descriptors that a configuration stores. `none` is an
`avdecc_read_descriptor_error`, which `proc_read_desc_resp` catches. -/
def newDesc (d : AemDesc) : Except Fault (Option AemDesc) :=
  if !d.readOk then pure none
  else
    match d.descriptorType with
    | .audioMap | .clockDomain => if d.layoutOk then pure (some d) else throw .assertion
    | _ => pure (some d)

def descIndexFromFrame (d : AemDesc) : Option (BitVec 16) :=
  match d.descriptorType with
  | .entity => some 0
  | .other _ => none
  | _ => some d.descriptorIndex

end AvdeccLib
