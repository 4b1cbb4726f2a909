import Karpenter.CloudProvider.InstanceType

/-! The reservations of one scheduling loop: which host holds which capacity reservation, and how often
each reservation can still be taken. A panic of the source is `none`. -/
namespace Karpenter.Provisioning

open Go (Map)
open CloudProvider

structure ReservationManager where
  reservations : Map String (Finset String) := ∅
  capacity : Map String Int := ∅

/-- Of several offerings with one reservation the least capacity counts. -/
def newReservationManager (registry : Registry) (instanceTypes : Map String (List InstanceType)) :
    ReservationManager where
  capacity :=
    let offerings := (instanceTypes.entries.flatMap Sigma.snd).flatMap (·.offerings)
    (offerings.filter fun o => o.capacityType = capacityTypeReserved).foldl (fun capacity o =>
      match capacity.lookup (o.reservationID registry) with
      | none => capacity.insert (o.reservationID registry) o.reservationCapacity
      | some current =>
        if current > o.reservationCapacity then capacity.insert (o.reservationID registry) o.reservationCapacity
        else capacity) ∅

namespace ReservationManager

variable (registry : Registry)

variable (rm : ReservationManager)

def hasReservation (hostname : String) (offering : Offering) : Bool :=
  decide (offering.reservationID registry ∈ (rm.reservations.lookup hostname).getD ∅)

def canReserve (hostname : String) (offering : Offering) : Option Bool :=
  if rm.hasReservation registry hostname offering then some true
  else (rm.capacity.lookup (offering.reservationID registry)).map fun capacity => decide (capacity ≠ 0)

/-- An offering whose reservation the host already holds is skipped. -/
def reserve (hostname : String) : ReservationManager → List Offering → Option ReservationManager
  | rm, [] => some rm
  | rm, offering :: rest =>
    if rm.hasReservation registry hostname offering then reserve hostname rm rest
    else
      let id := offering.reservationID registry
      let remaining := (rm.capacity.lookup id).getD 0 - 1
      if remaining < 0 then none
      else reserve hostname
        { reservations := rm.reservations.insert hostname (insert id ((rm.reservations.lookup hostname).getD ∅))
          capacity := rm.capacity.insert id remaining } rest

def release (hostname : String) (offerings : List Offering) : ReservationManager :=
  offerings.foldl (fun rm offering =>
    if rm.hasReservation registry hostname offering then
      let id := offering.reservationID registry
      { reservations := rm.reservations.insert hostname (((rm.reservations.lookup hostname).getD ∅).erase id)
        capacity := rm.capacity.insert id ((rm.capacity.lookup id).getD 0 + 1) }
    else rm) rm

/-- Crediting an unknown reservation has no effect. -/
def credit (reservationID : String) (count : Int) : ReservationManager :=
  match rm.capacity.lookup reservationID with
  | none => rm
  | some capacity => { rm with capacity := rm.capacity.insert reservationID (capacity + count) }

end ReservationManager

end Karpenter.Provisioning
