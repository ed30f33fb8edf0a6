import DecodeBench.Proofs.Batch.Filling

/-! A batch behaves as the list of its requests, up to its bounds on their number and on their ids. -/

namespace DecodeBench.Batch

inductive Edit where
  | add (r : Request)
  | setOutput (i : Nat) (wanted : Bool)
  | clear
  | get (i : Nat)
  deriving DecidableEq, Repr

inductive Reply where
  | size (n : Nat)
  | refused (e : Failure)
  | done
  | outside
  | found (r? : Option Request)
  deriving DecidableEq, Repr

def perform (b : Batch) : Edit → Reply × Batch
  | .add r =>
    match b.push r with
    | .ok b' => (.size b'.size, b')
    | .error e => (.refused e, b)
  | .setOutput i wanted =>
    match b.setOutput? i wanted with
    | some b' => (.done, b')
    | none => (.outside, b)
  | .clear => (.done, b.clear)
  | .get i => (.found (b.request? i), b)

def performOnList (capacity most : Nat) (rs : List Request) : Edit → Reply × List Request
  | .add r =>
    if capacity ≤ rs.length then (.refused (.batchFull capacity), rs)
    else if most < r.sequences.length then (.refused (.tooManyIds r.sequences.length most), rs)
    else (.size (rs.length + 1), rs ++ [r])
  | .setOutput i wanted =>
    if i < rs.length then (.done, rs.modify i fun r => { r with wantsLogits := wanted }) else (.outside, rs)
  | .clear => (.done, [])
  | .get i => (.found rs[i]?, rs)

def session {σ : Type} (act : σ → Edit → Reply × σ) : σ → List Edit → List Reply × σ
  | s, [] => ([], s)
  | s, e :: es =>
    let (reply, s) := act s e
    let (replies, s) := session act s es
    (reply :: replies, s)

structure Lists (capacity most : Nat) (b : Batch) (rs : List Request) : Prop where
  capacity_eq : b.capacity = capacity
  stride_eq : b.window.stride = most
  wellFormed : b.window.WellFormed
  toList_eq : b.window.toList = rs
  length_le : rs.length ≤ capacity

namespace Lists

variable {capacity most : Nat} {b : Batch} {rs : List Request}

lemma empty (capacity idsPerRequest : Nat) : Lists capacity (max idsPerRequest 1) (.empty capacity idsPerRequest) [] :=
  ⟨rfl, rfl, Window.wellFormed_empty _, Window.toList_empty _, Nat.zero_le capacity⟩

lemma size_eq (h : Lists capacity most b rs) : b.size = rs.length := by
  rw [← h.toList_eq, h.wellFormed.length_toList, size]

lemma request?_eq (h : Lists capacity most b rs) (i : Nat) : b.request? i = rs[i]? := by
  rw [← h.toList_eq, h.wellFormed.getElem?_toList, request?]

lemma sequences?_eq (h : Lists capacity most b rs) (i : Nat) :
    b.window.sequences? i = rs[i]?.map Request.sequences := by
  rw [← h.request?_eq]
  exact (h.wellFormed.columns i).2.2.1

lemma ids_size (h : Lists capacity most b rs) : b.window.ids.size = rs.length * most := by
  rw [h.wellFormed.ids_size, h.stride_eq, ← h.size_eq, size]

lemma add (h : Lists capacity most b rs) {r : Request} (hroom : rs.length < capacity)
    (hids : r.sequences.length ≤ most) : Lists capacity most (b.add r) (rs ++ [r]) := by
  have hstride : r.sequences.length ≤ b.window.stride := by rwa [h.stride_eq]
  refine ⟨h.capacity_eq, h.stride_eq, h.wellFormed.push hstride, ?_, ?_⟩
  · rw [Batch.add, h.wellFormed.toList_push hstride, h.toList_eq]
  · rw [List.length_append]
    exact hroom

lemma setOutput (h : Lists capacity most b rs) (i : Nat) (wanted : Bool) :
    Lists capacity most { b with window := b.window.setOutput i wanted }
      (rs.modify i fun r => { r with wantsLogits := wanted }) := by
  refine ⟨h.capacity_eq, h.stride_eq, h.wellFormed.setOutput i wanted, ?_, ?_⟩
  · rw [h.wellFormed.toList_setOutput, h.toList_eq]
  · simpa using h.length_le

lemma clear (h : Lists capacity most b rs) : Lists capacity most b.clear [] :=
  ⟨h.capacity_eq, h.stride_eq, Window.wellFormed_empty _, Window.toList_empty _, Nat.zero_le capacity⟩

lemma refusal?_eq (h : Lists capacity most b rs) (r : Request) : b.refusal? r =
    if capacity ≤ rs.length then some (.batchFull capacity)
    else if most < r.sequences.length then some (.tooManyIds r.sequences.length most)
    else none := by
  rw [refusal?, h.size_eq, h.capacity_eq, h.stride_eq]

lemma perform (h : Lists capacity most b rs) (e : Edit) :
    (b.perform e).1 = (performOnList capacity most rs e).1 ∧
      Lists capacity most (b.perform e).2 (performOnList capacity most rs e).2 := by
  cases e with
  | add r =>
    rw [Batch.perform, push, h.refusal?_eq, performOnList]
    split_ifs with hfull hids
    · exact ⟨rfl, h⟩
    · exact ⟨rfl, h⟩
    · have hadd := h.add (Nat.lt_of_not_le hfull) (Nat.le_of_not_lt hids)
      refine ⟨?_, hadd⟩
      have hsize := hadd.size_eq
      rw [List.length_append, List.length_singleton] at hsize
      exact congrArg Reply.size hsize
  | setOutput i wanted =>
    rw [Batch.perform, setOutput?, h.size_eq, performOnList]
    split_ifs
    · exact ⟨rfl, h.setOutput i wanted⟩
    · exact ⟨rfl, h⟩
  | clear => exact ⟨rfl, h.clear⟩
  | get i => exact ⟨congrArg Reply.found (h.request?_eq i), h⟩

lemma session (h : Lists capacity most b rs) (es : List Edit) :
    (session Batch.perform b es).1 = (session (performOnList capacity most) rs es).1 ∧
      Lists capacity most (session Batch.perform b es).2 (session (performOnList capacity most) rs es).2 := by
  induction es generalizing b rs with
  | nil => exact ⟨rfl, h⟩
  | cons e es ih =>
    obtain ⟨hreply, hnext⟩ := h.perform e
    obtain ⟨hreplies, hlast⟩ := ih hnext
    refine ⟨?_, hlast⟩
    simp only [Batch.session, hreply, hreplies]

end Lists

theorem edits_act_on_a_list (capacity idsPerRequest : Nat) (edits : List Edit) :
    let most := max idsPerRequest 1
    let (replies, b) := session perform (.empty capacity idsPerRequest) edits
    let (listReplies, rs) := session (performOnList capacity most) [] edits
    replies = listReplies ∧ b.window.toList = rs ∧ (∀ i, b.request? i = rs[i]?) ∧
      (∀ i, b.window.sequences? i = rs[i]?.map Request.sequences) ∧ b.size = rs.length ∧
      b.size ≤ capacity ∧ b.window.ids.size = b.size * most ∧
      ∀ r, (b.perform (.add r)).1 = .size (b.size + 1) ∨ (b.perform (.add r)).2 = b := by
  intro most
  obtain ⟨hreplies, h⟩ := (Lists.empty capacity idsPerRequest).session edits
  dsimp only
  refine ⟨hreplies, h.toList_eq, h.request?_eq, h.sequences?_eq, h.size_eq, ?_, ?_, fun r => ?_⟩
  · rw [h.size_eq]
    exact h.length_le
  · rw [h.ids_size, h.size_eq]
  · rw [perform, push]
    generalize (session perform (.empty capacity idsPerRequest) edits).2 = b
    cases b.refusal? r with
    | some e => exact .inr rfl
    | none => exact .inl (congrArg Reply.size (Window.size_push b.window r))

example : (session perform (.empty 2 2) [.add ⟨7, 0, [4, 5], false⟩, .clear, .add ⟨8, 1, [], true⟩, .get 0]).1 =
    [.size 1, .done, .size 1, .found (some ⟨8, 1, [], true⟩)] := by decide

end DecodeBench.Batch
