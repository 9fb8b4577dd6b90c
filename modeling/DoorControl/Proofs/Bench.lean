import DoorControl.Bench.Basic
import DoorControl.Proofs.Secrets

/-!
Two benches side by side that differ in what is stored and in the passwords of a submission. They
are surroundings in which two devices are in tandem, with any faults of storage but torn writes.
-/

namespace DoorControl

open Bytes Hardware Vaults

namespace Bench

/-- The bench with other contents of storage and the mailbox. -/
abbrev stocked (b : Bench) (storage : Storage) (mailbox : Option Submission) : Bench :=
  { b with storage, mailbox }

/-- Two benches that tear no write and differ in their storage and in the passwords of a submission
at most. -/
def Beside (b b' : Bench) (s : Vaults) : Prop :=
  ∃ storage mailbox, b' = b.stocked storage mailbox ∧ b.faults.torn = 0 ∧
    Option.Rel Submission.Akin b.mailbox mailbox ∧ s = ⟨b.storage.get, storage.get⟩

variable {b b' : Bench} {s : Vaults}

lemma Beside.outside (h : b.Beside b' s) {c : Hardware.Call} (hc : Outside c)
    (hoffer : ∀ x, c ≠ .offer x) :
    (respond c b').1 = (respond c b).1 ∧ (respond c b).2.Beside (respond c b').2 s := by
  obtain ⟨storage, mailbox, rfl, h⟩ := h
  cases c with
  | take => exact hc.elim
  | storedLength key => exact hc.elim
  | storedRead key room => exact hc.elim
  | storedWrite key value => exact hc.elim
  | storedRemove key => exact hc.elim
  | offer x => exact absurd rfl (hoffer x)
  | request r =>
    by_cases hnone : b.requestsLeft = 0
    · simp only [respond, acceptRequest, stocked, if_pos hnone]
      exact ⟨trivial, storage, mailbox, rfl, h⟩
    by_cases hfree : b.requestsLeft < 0
    · simp only [respond, acceptRequest, stocked, if_neg hnone, if_pos hfree]
      exact ⟨trivial, storage, mailbox, rfl, h⟩
    · simp only [respond, acceptRequest, stocked, if_neg hnone, if_neg hfree]
      exact ⟨trivial, storage, mailbox, rfl, h⟩
  | post e =>
    by_cases hroom : b.queue.length < b.capacity
    · simp only [respond, Bench.post, stocked, if_pos hroom]
      exact ⟨trivial, storage, mailbox, rfl, h⟩
    · simp only [respond, Bench.post, stocked, if_neg hroom]
      exact ⟨trivial, storage, mailbox, rfl, h⟩
  | _ => exact ⟨rfl, storage, mailbox, rfl, h⟩

lemma Beside.offer (h : b.Beside b' s) {x x' : Submission} (hx : x.Akin x') :
    (b'.offer x').1 = (b.offer x).1 ∧ (b.offer x).2.Beside (b'.offer x').2 s := by
  obtain ⟨storage, mailbox, rfl, htorn, hmail, rfl⟩ := h
  by_cases hopen : b.mailboxOpen
  · simp only [Bench.offer, stocked, if_pos hopen]
    exact ⟨trivial, storage, some x', rfl, htorn, .some hx, rfl⟩
  · simp only [Bench.offer, stocked, if_neg hopen]
    exact ⟨trivial, storage, mailbox, rfl, htorn, hmail, rfl⟩

lemma Beside.veiled (h : b.Beside b' s) {c c' : Hardware.Call} (hc : Veiled c c') :
    (respond c b).1 ≍ (respond c' b').1 ∧ (respond c b).2.Beside (respond c' b').2 s := by
  cases hc with
  | offer hx => exact (h.offer hx).imp_left fun hr => heq_of_eq hr.symm
  | startStation ssid pass pass' =>
    exact (h.outside (c := .startStation ssid pass) trivial nofun).imp_left fun hr =>
      heq_of_eq hr.symm
  | connect r pass =>
    exact (h.outside (c := .request (.connect r)) trivial nofun).imp_left fun hr =>
      heq_of_eq hr.symm
  | same hc =>
    cases c with
    | offer x => exact (h.offer (.refl x)).imp_left fun hr => heq_of_eq hr.symm
    | _ => exact (h.outside hc nofun).imp_left fun hr => heq_of_eq hr.symm

lemma get_set_eq_update (m : Storage) (key value : Bytes) :
    (m.set key value).get = Function.update m.get key value := by
  funext k
  rw [Storage.get_set, Function.update_apply]

lemma get_erase_eq_update (m : Storage) (key : Bytes) :
    (m.erase key).get = Function.update m.get key [] := by
  funext k
  rw [Storage.get, Storage.find?_erase, Function.update_apply]
  split <;> rfl

/-- On two such benches two devices are in tandem. -/
lemma abreast : environment.Abreast tandem Beside environment := by
  intro c c' b b' s hc h
  cases hc with
  | veiled hc =>
    obtain ⟨hr, h'⟩ := h.veiled hc
    exact ⟨s, .veiled hc hr s, h'⟩
  | take =>
    obtain ⟨storage, mailbox, rfl, htorn, hmail, rfl⟩ := h
    exact ⟨_, .taken hmail _, storage, none, rfl, htorn, .none, rfl⟩
  | storedLength slot =>
    obtain ⟨storage, mailbox, rfl, htorn, hmail, rfl⟩ := h
    exact ⟨_, .measured _ _, storage, mailbox, rfl, htorn, hmail, rfl⟩
  | storedRead slot room =>
    obtain ⟨storage, mailbox, rfl, htorn, hmail, rfl⟩ := h
    by_cases hfault : b.faults.reads ≠ 0
    · simp only [environment, respond, Bench.read, stocked, if_pos hfault]
      exact ⟨_, .unread _ _ _, storage, mailbox, rfl, htorn, hmail, rfl⟩
    · simp only [environment, respond, Bench.read, stocked, if_neg hfault]
      exact ⟨_, .read _ _ _, storage, mailbox, rfl, htorn, hmail, rfl⟩
  | @storedWrite slot seq c c' =>
    obtain ⟨storage, mailbox, rfl, htorn, hmail, rfl⟩ := h
    have hsize := Record.length_encode c seq
    have hsize' := Record.length_encode c' seq
    generalize Record.encode c seq = v at hsize ⊢
    generalize Record.encode c' seq = v' at hsize' ⊢
    by_cases hfault : b.faults.writes ≠ 0
    · simp only [environment, respond, Bench.write, stocked, if_pos hfault]
      exact ⟨_, .unwritten _ (by rw [hsize]; decide) (by rw [hsize']; decide) _, storage, mailbox,
        rfl, htorn, hmail, rfl⟩
    · simp only [environment, respond, Bench.write, stocked, if_neg hfault,
        if_neg (not_not.2 htorn)]
      exact ⟨_, .written _ _ _ _, storage.set slot.key v', mailbox, rfl, htorn, hmail, by
        rw [get_set_eq_update, get_set_eq_update, Vaults.put]⟩
  | storedRemove slot =>
    obtain ⟨storage, mailbox, rfl, htorn, hmail, rfl⟩ := h
    by_cases hfault : b.faults.removes ≠ 0
    · simp only [environment, respond, Bench.remove, stocked, if_pos hfault]
      exact ⟨_, .removed _ false false _, storage, mailbox, rfl, htorn, hmail, rfl⟩
    by_cases hignored : b.faults.ignored ≠ 0
    · simp only [environment, respond, Bench.remove, stocked, if_neg hfault, if_pos hignored]
      exact ⟨_, .removed _ true false _, storage, mailbox, rfl, htorn, hmail, rfl⟩
    · simp only [environment, respond, Bench.remove, stocked, if_neg hfault, if_neg hignored]
      exact ⟨_, .removed _ true true _, storage.erase slot.key, mailbox, rfl, htorn, hmail, by
        rw [get_erase_eq_update, get_erase_eq_update, if_pos rfl, Vaults.put]⟩

end Bench

end DoorControl
