import DoorControl.Proofs.Config.Flash
import DoorControl.Proofs.Parts

/-!
The end of a life: the device goes offline and asks for a restart, once.
-/

namespace DoorControl

open Bytes Program

/-- How often a restart was asked for. -/
def restarts (h : List (Exchange Hardware)) : Nat :=
  h.countP fun x =>
    match x.call with
    | .restart => true
    | _ => false

namespace Device

variable {d : Device}

/-- The calls that go on without a restart. -/
def Going : Hardware.Call → Prop
  | .restart => False
  | _ => True

lemma restarts_cons {c : Hardware.Call} (hc : Going c) (r : Hardware.Answer c)
    (h : List (Exchange Hardware)) : restarts (⟨c, r⟩ :: h) = restarts h := by
  refine List.countP_cons_of_neg ?_
  cases c <;> first | exact Bool.false_ne_true | exact hc.elim

lemma goOffline_going (d : Device) : d.goOffline.Confined (fun c => Flash.Spared c ∧ Going c)
    (·.rebootPending = d.rebootPending) := by
  refine (Session.shutdown_confined d.timing rfl).within (fun c hc => ?_) fun session _ => ?_
  · cases c <;> first | exact ⟨trivial, trivial⟩ | exact hc.elim
  refine d.link.shutdown_confined.within (fun c hc => ?_) fun link _ => rfl
  cases c <;> first | exact ⟨trivial, trivial⟩ | exact hc.elim

lemma reboot_restarts (hr : d.rebootPending = false) (why : RebootReason)
    (h : List (Exchange Hardware)) : (d.reboot why).Ensures (.history Hardware)
      (fun d' h' => d'.rebootPending = true ∧ restarts h' = restarts h + 1) h := by
  unfold reboot
  rw [if_neg (by simp [hr])]
  rintro _ _ rfl _ _ rfl
  refine ⟨rfl, ?_⟩
  rw [← restarts_cons (c := .log _) trivial () h]
  exact List.countP_cons_of_pos rfl

lemma reboot_spared (d : Device) (why : RebootReason) :
    (d.reboot why).Confined Flash.Spared fun _ => True := by
  simp [reboot, Flash.Spared]

end Device

end DoorControl
