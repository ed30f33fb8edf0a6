import DecodeBench.Proofs.Engine.Ledger

/-! A call that fails leaves nothing behind but its count. The search for cells may have moved its head
on the way, and a forward pass that was broken off may have stored rows, but an engine that was spared
the call answers the same and keeps the same cells from then on. -/

namespace DecodeBench.Transformer

lemma Ledger.perform_refuse (t : Terms) (l : Ledger) (c : Call) : l.refuse.perform t c = (l.perform t c).refuse := by
  cases c with
  | decode w =>
    have hstatus : l.refuse.status t w.toList = l.status t w.toList := rfl
    rw [perform, perform, hstatus]
    split <;> rfl
  | clear => rfl
  | share => rfl
  | now => rfl

namespace State

open Cache Model

structure OneMoreFailure (s s' : State) : Prop where
  cells : s'.table.cells = s.table.cells
  used : s'.table.used = s.table.used
  free : s'.table.free? = s.table.free?
  extent : s'.table.extent = s.table.extent
  tokens : s'.statistics.tokens = s.statistics.tokens
  outputs : s'.statistics.outputs = s.statistics.outputs
  calls : s'.statistics.calls = s.statistics.calls + 1
  failed : s'.statistics.failed = s.statistics.failed + 1

namespace Balanced

variable {t : Terms} {s s' : State} {l : Ledger}

lemma oneMoreFailure (h : s.Balanced t l) (h' : s'.Balanced t l.refuse) : s.OneMoreFailure s' := by
  have hsize : s'.table.size = s.table.size := h'.size.trans h.size.symm
  have hused : s'.table.used = s.table.used := h'.table.used.trans h.table.used.symm
  constructor
  case cells => exact h.table.cells_eq h'.table hsize
  case used => exact hused
  case free => rw [CellTable.free?, CellTable.free?, hsize, hused]
  case extent => exact h'.table.extent_eq.trans h.table.extent_eq.symm
  all_goals rw [h'.statistics, h.statistics]; rfl

lemma refused (h : s.Balanced t l) {rs : List Request} (hfailed : (s.decodeRequests rs).1 ≠ 0) :
    (s.decodeRequests rs).2.Balanced t l.refuse := by
  obtain ⟨hstatus, hbalanced⟩ := h.decode rs
  rwa [if_neg (hstatus ▸ hfailed)] at hbalanced

lemma status?_of_refuse (h : s.Balanced t l) (h' : s'.Balanced t l.refuse) (c : Call) :
    Engine.status? s' c = Engine.status? s c := by
  cases c with
  | decode w => exact congrArg some ((h'.decode w.toList).1.trans (h.decode w.toList).1.symm)
  | clear => rfl
  | share => rfl
  | now => rfl

lemma after_refuse (h : s.Balanced t l) (h' : s'.Balanced t l.refuse) (cs : List Call) :
    Engine.statuses s' cs = Engine.statuses s cs ∧ (Engine.after s cs).OneMoreFailure (Engine.after s' cs) := by
  induction cs generalizing s s' l with
  | nil => exact ⟨rfl, h.oneMoreFailure h'⟩
  | cons c cs ih =>
    have hnext := h'.perform c
    rw [Ledger.perform_refuse] at hnext
    obtain ⟨hstatuses, hafter⟩ := ih (h.perform c) hnext
    rw [Engine.statuses, Engine.statuses, h.status?_of_refuse h', hstatuses]
    exact ⟨rfl, hafter⟩

end Balanced

theorem failed_call_leaves_no_trace {d : Dimensions} {limits : Limits} {device : Device} {format : NumberFormat}
    {fresh : State} (hcreate : create d limits device format = .ok fresh) (history : List Call) {w : Window}
    (hfailed : (Engine.decode w (Engine.after fresh history)).1 ≠ 0) (later : List Call) :
    let spared := Engine.after fresh history
    let s := (Engine.decode w spared).2
    Engine.statuses s later = Engine.statuses spared later ∧
      (Engine.after spared later).OneMoreFailure (Engine.after s later) :=
  have hspared := (create_balanced hcreate).after history
  hspared.after_refuse (hspared.refused hfailed) later

theorem refused_layer_leaves_one_cell_in_use :
    let device : Device := ⟨fun _ work stage => stage ≠ .attend 1 ∨ work.requests.length < 2⟩
    let one := (Window.empty 1).push ⟨0, 0, [0], true⟩
    let two := one.push ⟨1, 1, [0], true⟩
    let later : List Call := [.decode one, .share 0 1 ⟨0, 2⟩, .decode two, .decode one]
    ∃ fresh, create .tiny { cells := 3, batch := 4 } device .binary32 = .ok fresh ∧
      let spared := Engine.after fresh [.decode one]
      (Engine.decode two spared).1 = -2 ∧ (Engine.decode two spared).2.table.used = 1 ∧
        Engine.statuses (Engine.decode two spared).2 later = Engine.statuses spared later ∧
        (Engine.after spared later).OneMoreFailure (Engine.after (Engine.decode two spared).2 later) := by
  intro device one two later
  obtain ⟨fresh, hcreate⟩ : ∃ fresh, create .tiny { cells := 3, batch := 4 } device .binary32 = .ok fresh := ⟨_, rfl⟩
  have hspared := (create_balanced hcreate).after [.decode one]
  have hrefused : (Engine.decode two (Engine.after fresh [.decode one])).1 = -2 :=
    (hspared.decode two.toList).1.trans (by decide)
  have hfailed : (Engine.decode two (Engine.after fresh [.decode one])).1 ≠ 0 := by
    rw [hrefused]
    decide
  obtain ⟨-, hnow⟩ := failed_call_leaves_no_trace hcreate [.decode one] hfailed []
  obtain ⟨hstatuses, hafter⟩ := failed_call_leaves_no_trace hcreate [.decode one] hfailed later
  refine ⟨fresh, hcreate, hrefused, ?_, hstatuses, hafter⟩
  exact hnow.used.trans (hspared.table.used.trans (by decide))

end State

end DecodeBench.Transformer
