import Karpenter.DynamicResources.Pool

/-! Inter-device constraints of a claim and the attribute bindings they fall back to. A constraint is a
state that `add` extends and `remove` shrinks during the search. `add` yields `none` where the source
returns false, so a rejected device cannot leave a changed constraint behind. -/
namespace Karpenter.DynamicResources

open Go (Map)
open CloudProvider (Device DeviceAttribute)

/-- Attribute to node pool to instance type to device to the devices it shares the attribute with. -/
abbrev AttributeBindings :=
  Map String (Map String (Map InstanceTypeID (Map CloudProvider.DeviceID (Finset CloudProvider.DeviceID))))

variable (ab : AttributeBindings)

def AttributeBindings.forDevice (nodePool : String) (instanceType : InstanceTypeID) (attr : String)
    (device : DeviceID) : Option (Finset CloudProvider.DeviceID) :=
  (ab.lookup attr).bind fun attributeBindings =>
    (attributeBindings.lookup nodePool).bind fun nodePoolBindings =>
      (nodePoolBindings.lookup instanceType).bind fun itBindings =>
        itBindings.lookup device.toDeviceID

def AttributeBindings.hasBindings (nodePool : String) (instanceType : InstanceTypeID) (attr : String)
    (device : DeviceID) : Bool :=
  (AttributeBindings.forDevice ab nodePool instanceType attr device).isSome

def AttributeBindings.bound (nodePool : String) (instanceType : InstanceTypeID) (attr : String)
    (deviceA deviceB : DeviceID) : Bool :=
  match AttributeBindings.forDevice ab nodePool instanceType attr deviceA with
  | none => false
  | some deviceBindings =>
    if deviceA.toDeviceID = deviceB.toDeviceID then decide (0 < deviceBindings.card)
    else decide (deviceB.toDeviceID ∈ deviceBindings)

structure AttributeBindingFallback where
  bindings : AttributeBindings
  nodePool : String
  instanceTypeID : InstanceTypeID

/-- The text before and after the first separator, if there is one. -/
def stringsCut (s : String) (separator : Char) : Option (String × String) :=
  let before := s.toList.takeWhile (· ≠ separator)
  match s.toList.drop before.length with
  | [] => none
  | _ :: after => some (String.ofList before, String.ofList after)

/-- A name qualified with the device's own driver also finds the unqualified attribute. -/
def lookupAttribute (device : Device) (deviceID : DeviceID) (attributeName : String) :
    Option DeviceAttribute :=
  match device.attributes.lookup attributeName with
  | some attr => some attr
  | none =>
    match stringsCut attributeName '/' with
    | none => none
    | some (domain, id) =>
      if domain = deviceID.driver then device.attributes.lookup id else none

def attributeValuesEqual (a b : Option DeviceAttribute) : Bool :=
  match a, b with
  | some a, some b =>
    match a.stringValue, b.stringValue with
    | some left, some right => left = right
    | _, _ =>
      match a.intValue, b.intValue with
      | some left, some right => left = right
      | _, _ =>
        match a.boolValue, b.boolValue with
        | some left, some right => left = right
        | _, _ =>
          match a.versionValue, b.versionValue with
          | some left, some right => left = right
          | _, _ => false
  | _, _ => false

structure MatchAttributeConstraint where
  requestNames : Finset String
  attributeName : String
  attributeValue : Option DeviceAttribute := none
  attributeBindingFallback : Option AttributeBindingFallback := none
  usedBinding : Bool := false
  allocatedDeviceIDs : List DeviceID := []

namespace MatchAttributeConstraint

variable (m : MatchAttributeConstraint)

def appliesTo (requestName : RequestName) : Bool :=
  if m.requestNames = ∅ then true
  else if requestName.parent ∈ m.requestNames then true
  else if requestName.sub ≠ "" then requestName.string ∈ m.requestNames
  else false

/-- The path of a device that carries the attribute; it never mixes with the binding path. -/
def addConcrete (attr : DeviceAttribute) (deviceID : DeviceID) : Option MatchAttributeConstraint :=
  if m.usedBinding then none
  else if m.allocatedDeviceIDs.isEmpty then
    some { m with attributeValue := some attr, allocatedDeviceIDs := [deviceID] }
  else if attributeValuesEqual m.attributeValue (some attr) then
    some { m with allocatedDeviceIDs := m.allocatedDeviceIDs ++ [deviceID] }
  else none

/-- The path of a device without the attribute: it has to be bound to the first allocated device. -/
def addBound (deviceID : DeviceID) : Option MatchAttributeConstraint :=
  if !m.allocatedDeviceIDs.isEmpty && !m.usedBinding then none
  else match m.attributeBindingFallback with
    | none => none
    | some fb =>
      if AttributeBindings.hasBindings fb.bindings fb.nodePool fb.instanceTypeID m.attributeName deviceID then
        match m.allocatedDeviceIDs with
        | [] => some { m with usedBinding := true, allocatedDeviceIDs := [deviceID] }
        | first :: rest =>
          if AttributeBindings.bound fb.bindings fb.nodePool fb.instanceTypeID m.attributeName first deviceID then
            some { m with allocatedDeviceIDs := first :: rest ++ [deviceID] }
          else none
      else none

def add (requestName : RequestName) (device : Device) (deviceID : DeviceID) : Option MatchAttributeConstraint :=
  if m.appliesTo requestName then
    match lookupAttribute device deviceID m.attributeName with
    | some attr => m.addConcrete attr deviceID
    | none => m.addBound deviceID
  else some m

def remove (requestName : RequestName) : MatchAttributeConstraint :=
  if m.appliesTo requestName then
    let allocatedDeviceIDs := m.allocatedDeviceIDs.dropLast
    if allocatedDeviceIDs.isEmpty then
      { m with attributeValue := none, usedBinding := false, allocatedDeviceIDs }
    else { m with allocatedDeviceIDs }
  else m

def reset : MatchAttributeConstraint :=
  { m with attributeValue := none, usedBinding := false, allocatedDeviceIDs := [] }

end MatchAttributeConstraint

/-- Adds a device to every constraint of a claim. When one rejects it, those already extended are
shrunk again, the latest first. -/
def addConstraints (requestName : RequestName) (device : Device) (deviceID : DeviceID) :
    List MatchAttributeConstraint → Bool × List MatchAttributeConstraint
  | [] => (true, [])
  | con :: rest =>
    match con.add requestName device deviceID with
    | none => (false, con :: rest)
    | some extended =>
      match addConstraints requestName device deviceID rest with
      | (true, added) => (true, extended :: added)
      | (false, unchanged) => (false, extended.remove requestName :: unchanged)

def removeConstraints (requestName : RequestName) (constraints : List MatchAttributeConstraint) :
    List MatchAttributeConstraint :=
  constraints.map (·.remove requestName)

end Karpenter.DynamicResources
