import DecodeBench.Json.Shape
import DecodeBench.Proofs.Json.Skipping

/-! Objects as records. Which values an object gives to the fields of a record does not depend on the order
of its members or on what else it holds; the first member that a field cannot take is the one reported. -/

namespace DecodeBench.Json

open Value (memberToken separated)

abbrev Member : Type := List UInt8 × Value

/-! ### Fields and keys -/

namespace Kind

def Reads (k : Kind) (v : Json.Value) (x : k.Value) : Prop := ∀ rest, k.read (v.tokens ++ rest) = .ok (x, rest)

def Refuses (k : Kind) (v : Json.Value) (e : ReadError) : Prop := ∀ rest, k.read (v.tokens ++ rest) = .error e

lemma Reads.unique {k : Kind} {v : Json.Value} {x y : k.Value} (hx : k.Reads v x) (hy : k.Reads v y) : x = y := by
  have heq := (hx []).symm.trans (hy [])
  simpa using heq

end Kind

namespace Field

def names (f : Field) : List String := f.name :: f.aliases

lemma answersTo_iff {f : Field} {key : String} : f.answersTo key ↔ key ∈ f.names := by
  simp [answersTo, names]

def means (f : Field) (body : List UInt8) : Bool := (text? body).any f.answersTo

lemma means_of_text? {f : Field} {body : List UInt8} {key : String} (h : text? body = some key) :
    f.means body = f.answersTo key := by
  rw [means, h, Option.any_some]

end Field

def Field.absent (ms : List Member) (f : Field) : Bool := ms.all fun m => !f.means m.1

def Apart (fs : List Field) : Prop := (fs.flatMap Field.names).Nodup

instance (fs : List Field) : Decidable (Apart fs) := inferInstanceAs (Decidable (fs.flatMap Field.names).Nodup)

lemma Apart.tail {f : Field} {fs : List Field} (h : Apart (f :: fs)) : Apart fs := by
  rw [Apart, List.flatMap_cons] at h
  exact (List.nodup_append.1 h).2.1

lemma Apart.head_answers {f g : Field} {fs : List Field} (h : Apart (f :: fs)) (hg : g ∈ fs) {key : String}
    (hkey : g.answersTo key) : f.answersTo key = false := by
  rw [Apart, List.flatMap_cons, List.nodup_append] at h
  rw [Bool.eq_false_iff]
  intro hf
  exact h.2.2 key (Field.answersTo_iff.1 hf) key (List.mem_flatMap.2 ⟨g, hg, Field.answersTo_iff.1 hkey⟩) rfl

/-! ### Slots -/

section Slots

variable {ms : List Member} {m : Member} {f : Field} {fs : List Field}

/-- What the slot of a field holds after some members: nothing, or what the only one of them that
means the field says. -/
def SlotFrom (ms : List Member) (f : Field) : Option f.kind.Value → Prop
  | none => ms.filter (f.means ·.1) = []
  | some x => ∃ m, ms.filter (f.means ·.1) = [m] ∧ f.kind.Reads m.2 x

def SlotsFrom (ms : List Member) : (fs : List Field) → Slots fs → Prop
  | [], () => True
  | f :: fs, (slot, slots) => SlotFrom ms f slot ∧ SlotsFrom ms fs slots

lemma slotsFrom_empty (fs : List Field) : SlotsFrom [] fs (Slots.empty fs) := by
  induction fs with
  | nil => trivial
  | cons f fs ih => exact ⟨rfl, ih⟩

lemma SlotFrom.append {slot : Option f.kind.Value} (h : SlotFrom ms f slot) (hm : f.means m.1 = false) :
    SlotFrom (ms ++ [m]) f slot := by
  have hfilter : (ms ++ [m]).filter (f.means ·.1) = ms.filter (f.means ·.1) := by simp [hm]
  cases slot with
  | none => exact hfilter.trans h
  | some x =>
    obtain ⟨m', hm', hreads⟩ := h
    exact ⟨m', hfilter.trans hm', hreads⟩

lemma SlotFrom.filled (h : SlotFrom ms f none) (hm : f.means m.1) {x : f.kind.Value} (hx : f.kind.Reads m.2 x) :
    SlotFrom (ms ++ [m]) f (some x) := by
  have hnone : ms.filter (f.means ·.1) = [] := h
  exact ⟨m, by simp [hnone, hm], hx⟩

lemma SlotFrom.eq_none {slot : Option f.kind.Value} (h : SlotFrom ms f slot) (hnone : ms.filter (f.means ·.1) = []) :
    slot = none := by
  cases slot with
  | none => rfl
  | some x =>
    obtain ⟨m, hm, -⟩ := h
    simp [hnone] at hm

lemma SlotsFrom.append {slots : Slots fs} (h : SlotsFrom ms fs slots) (hm : ∀ f ∈ fs, f.means m.1 = false) :
    SlotsFrom (ms ++ [m]) fs slots := by
  induction fs with
  | nil => trivial
  | cons f fs ih =>
    obtain ⟨hf, hfs⟩ := List.forall_mem_cons.1 hm
    exact ⟨h.1.append hf, ih h.2 hfs⟩

def readSlot (f : Field) : Option f.kind.Value → List Token → Except ReadError (f.kind.Value × List Token)
  | some _, _ => .error (.duplicateField f.name)
  | none, .colon :: ts => f.kind.read ts
  | none, _ => .error .malformed

lemma readMember?_head (slot : Option f.kind.Value) (slots : Slots fs) {key : String} (h : f.answersTo key)
    (ts : List Token) : Slots.readMember? (f :: fs) (slot, slots) key ts =
    some ((readSlot f slot ts).map fun (x, ts) => ((some x, slots), ts)) := by
  unfold Slots.readMember? readSlot
  rw [if_pos h]
  split
  case h_3 hcolon => simp_all [Except.map]
  all_goals rfl

lemma readMember?_tail (slot : Option f.kind.Value) (slots : Slots fs) {key : String} (h : f.answersTo key = false)
    (ts : List Token) : Slots.readMember? (f :: fs) (slot, slots) key ts =
    (Slots.readMember? fs slots key ts).map fun r => r.map fun (slots, ts) => ((slot, slots), ts) := by
  rw [Slots.readMember?.eq_def]
  exact if_neg (by simp [h])

lemma exists_slot (hapart : Apart fs) {slots : Slots fs} (h : SlotsFrom ms fs slots) (hf : f ∈ fs) {key : String}
    (hkey : f.answersTo key) : ∃ (slot : Option f.kind.Value) (put : f.kind.Value → Slots fs), SlotFrom ms f slot ∧
    (∀ m x, text? m.1 = some key → SlotFrom (ms ++ [m]) f (some x) → SlotsFrom (ms ++ [m]) fs (put x)) ∧
    ∀ ts, Slots.readMember? fs slots key ts = some ((readSlot f slot ts).map fun (x, ts) => (put x, ts)) := by
  induction fs with
  | nil => cases hf
  | cons g fs ih =>
    obtain ⟨slot, slots⟩ := slots
    rcases List.mem_cons.1 hf with rfl | hf
    · refine ⟨slot, fun x => (some x, slots), h.1, fun m x hm hx => ⟨hx, h.2.append fun g hg => ?_⟩,
        readMember?_head slot slots hkey⟩
      rw [Field.means_of_text? hm, Bool.eq_false_iff]
      intro hg'
      exact absurd hkey (by simp [hapart.head_answers hg hg'])
    · obtain ⟨found, put, hfound, hput, hread⟩ := ih hapart.tail h.2 hf
      have hg : g.answersTo key = false := hapart.head_answers hf hkey
      refine ⟨found, fun x => (slot, put x), hfound, fun m x hm hx => ⟨h.1.append ?_, hput m x hm hx⟩, fun ts => ?_⟩
      · rw [Field.means_of_text? hm, hg]
      · rw [readMember?_tail slot slots hg, hread]
        cases readSlot f found ts <;> rfl

lemma readMember?_none {slots : Slots fs} {key : String} (h : ∀ f ∈ fs, f.answersTo key = false) (ts : List Token) :
    Slots.readMember? fs slots key ts = none := by
  induction fs with
  | nil => rfl
  | cons f fs ih =>
    obtain ⟨hf, hfs⟩ := List.forall_mem_cons.1 h
    rw [readMember?_tail slots.1 slots.2 hf, ih hfs]
    rfl

end Slots

/-! ### Members -/

section Members

variable {ms seen : List Member} {m : Member} {f : Field} {fs : List Field} {slots : Slots fs}

structure Plainly (fs : List Field) (ms : List Member) : Prop where
  keys : ∀ m ∈ ms, (text? m.1).isSome
  once : ∀ f ∈ fs, ms.countP (f.means ·.1) ≤ 1
  reads : ∀ f ∈ fs, ∀ m ∈ ms, f.means m.1 → ∃ x, f.kind.Reads m.2 x

lemma Plainly.of_append {before after : List Member} (h : Plainly fs (before ++ after)) : Plainly fs before where
  keys m hm := h.keys m (List.mem_append_left _ hm)
  once f hf := by
    have hcount := h.once f hf
    rw [List.countP_append] at hcount
    omega
  reads f hf m hm := h.reads f hf m (List.mem_append_left _ hm)

def valueTokens (m : Member) : List Token := .colon :: m.2.tokens

lemma readMember_unmeant (hkey : (text? m.1).isSome) (hm : ∀ f ∈ fs, f.means m.1 = false) (ts : List Token) :
    Shape.readMember fs slots m.1 (valueTokens m ++ ts) = .ok (slots, ts) := by
  obtain ⟨key, hkey⟩ := Option.isSome_iff_exists.1 hkey
  have hnone : ∀ f ∈ fs, f.answersTo key = false := fun f hf => by rw [← Field.means_of_text? hkey, hm f hf]
  rw [Shape.readMember, hkey]
  simp only [readMember?_none hnone, valueTokens, List.cons_append, skipValue_tokens]
  rfl

section Meant

variable (hapart : Apart fs) (hslots : SlotsFrom ms fs slots) (hf : f ∈ fs) (hm : f.means m.1)
include hapart hslots hf hm

lemma exists_slot_of_means : ∃ (slot : Option f.kind.Value) (put : f.kind.Value → Slots fs), SlotFrom ms f slot ∧
    (∀ x, SlotFrom (ms ++ [m]) f (some x) → SlotsFrom (ms ++ [m]) fs (put x)) ∧
    ∀ ts, Shape.readMember fs slots m.1 ts = (readSlot f slot ts).map fun (x, ts) => (put x, ts) := by
  obtain ⟨key, hkey, hanswers⟩ := (Option.any_eq_true _ _).1 hm
  obtain ⟨slot, put, hslot, hput, hread⟩ := exists_slot hapart hslots hf hanswers
  refine ⟨slot, put, hslot, fun x => hput m x hkey, fun ts => ?_⟩
  rw [Shape.readMember, hkey]
  simp only [hread]

lemma readMember_fresh (hfresh : ms.filter (f.means ·.1) = []) {x : f.kind.Value} (hx : f.kind.Reads m.2 x) :
    ∃ slots', SlotsFrom (ms ++ [m]) fs slots' ∧
    ∀ ts, Shape.readMember fs slots m.1 (valueTokens m ++ ts) = .ok (slots', ts) := by
  obtain ⟨slot, put, hslot, hput, hread⟩ := exists_slot_of_means hapart hslots hf hm
  obtain rfl := hslot.eq_none hfresh
  refine ⟨put x, hput x (hslot.filled hm hx), fun ts => ?_⟩
  rw [hread, valueTokens, List.cons_append, readSlot, hx]
  rfl

lemma readMember_refused (hfresh : ms.filter (f.means ·.1) = []) {e : ReadError} (he : f.kind.Refuses m.2 e)
    (ts : List Token) : Shape.readMember fs slots m.1 (valueTokens m ++ ts) = .error e := by
  obtain ⟨slot, put, hslot, -, hread⟩ := exists_slot_of_means hapart hslots hf hm
  obtain rfl := hslot.eq_none hfresh
  rw [hread, valueTokens, List.cons_append, readSlot, he]
  rfl

end Meant

/-! ### Objects -/

def following (ms : List Member) : List Token := ms.flatMap fun m => .comma :: memberToken m

def objectRest (ms : List Member) : List Token := separated (ms.map memberToken) ++ [.closeBrace]

lemma separated_cons (ts : List Token) (tss : List (List Token)) :
    separated (ts :: tss) = ts ++ tss.flatMap (.comma :: ·) := by
  induction tss generalizing ts with
  | nil => simp [separated]
  | cons us tss ih => rw [Value.separated_cons_cons, ih us, List.flatMap_cons, List.cons_append]

lemma readMembers_comma (m : Member) (ts : List Token) :
    Shape.readMembers fs slots (.comma :: (memberToken m ++ ts)) = (do
      let (slots, rest) ← Shape.readMember fs slots m.1 (valueTokens m ++ ts)
      Shape.readMembers fs slots rest) := by
  have hvalue : valueTokens m ++ ts = .colon :: m.2.tokens ++ ts := rfl
  rw [memberToken, List.cons_append, Shape.readMembers, hvalue]
  split
  case h_1 h =>
    rw [h]
    rfl
  case h_2 h =>
    rw [h]
    rfl

lemma following_cons (m : Member) (ms : List Member) (ts : List Token) :
    following (m :: ms) ++ ts = .comma :: (memberToken m ++ (following ms ++ ts)) := by
  simp [following]

/-- The first member differs from the others only in that no comma stands before it. -/
lemma readFirstMembers_eq (ms : List Member) (ts : List Token) : Shape.readFirstMembers fs (objectRest ms ++ ts) =
    Shape.readMembers fs (Slots.empty fs) (following ms ++ .closeBrace :: ts) := by
  cases ms with
  | nil =>
    rw [Shape.readMembers.eq_def]
    rfl
  | cons m ms =>
    have hrest : objectRest (m :: ms) ++ ts = memberToken m ++ (following ms ++ .closeBrace :: ts) := by
      simp [objectRest, separated_cons, following, List.flatMap_map]
    rw [following_cons, readMembers_comma, hrest]
    rfl

lemma readMembers_run (hapart : Apart fs) (h : Plainly fs (seen ++ ms)) (hslots : SlotsFrom seen fs slots) :
    ∃ slots', SlotsFrom (seen ++ ms) fs slots' ∧
    ∀ ts, Shape.readMembers fs slots (following ms ++ ts) = Shape.readMembers fs slots' ts := by
  induction ms generalizing seen slots with
  | nil => exact ⟨slots, by rwa [List.append_nil], fun ts => rfl⟩
  | cons m ms ih =>
    have hsplit : seen ++ m :: ms = seen ++ [m] ++ ms := by simp
    rw [hsplit] at h ⊢
    have hmem : m ∈ seen ++ [m] ++ ms := by simp
    obtain ⟨slots', hslots', hread⟩ : ∃ slots', SlotsFrom (seen ++ [m]) fs slots' ∧
        ∀ ts, Shape.readMember fs slots m.1 (valueTokens m ++ ts) = .ok (slots', ts) := by
      by_cases hmeant : ∃ f ∈ fs, f.means m.1
      · obtain ⟨f, hf, hm⟩ := hmeant
        obtain ⟨x, hx⟩ := h.reads f hf m hmem hm
        refine readMember_fresh hapart hslots hf hm ?_ hx
        have honce := h.of_append.once f hf
        rw [List.countP_append, List.countP_singleton, if_pos hm] at honce
        exact List.filter_eq_nil_iff.2 (List.countP_eq_zero.1 (by omega))
      · have hunmeant : ∀ f ∈ fs, f.means m.1 = false := by simpa using hmeant
        exact ⟨slots, hslots.append hunmeant, readMember_unmeant (h.keys m hmem) hunmeant⟩
    obtain ⟨slots'', hslots'', hrest⟩ := ih h hslots'
    refine ⟨slots'', hslots'', fun ts => ?_⟩
    rw [following_cons, readMembers_comma, hread]
    exact hrest ts

lemma readMembers_from_empty (hapart : Apart fs) (h : Plainly fs ms) : ∃ slots, SlotsFrom ms fs slots ∧
    ∀ ts, Shape.readMembers fs (Slots.empty fs) (following ms ++ ts) = Shape.readMembers fs slots ts := by
  have hms : Plainly fs ([] ++ ms) := h
  exact readMembers_run hapart hms (slotsFrom_empty fs)

lemma readObject_eq (ms : List Member) (ts : List Token) : Shape.readObject fs (objectRest ms ++ ts) = (do
    let (slots, ts) ← Shape.readMembers fs (Slots.empty fs) (following ms ++ .closeBrace :: ts)
    return (← slots.complete fs, ts)) := by
  rw [Shape.readObject, readFirstMembers_eq]

def Gives (ms : List Member) : (fs : List Field) → Values fs → Prop
  | [], () => True
  | f :: fs, (x, vs) => SlotFrom ms f (some x) ∧ Gives ms fs vs

lemma SlotFrom.eq_some {slot : Option f.kind.Value} {x : f.kind.Value} (hslot : SlotFrom ms f slot)
    (hx : SlotFrom ms f (some x)) : slot = some x := by
  obtain ⟨m, hm, hx⟩ := hx
  cases slot with
  | none =>
    have hnone : ms.filter (f.means ·.1) = [] := hslot
    simp [hnone] at hm
  | some y =>
    obtain ⟨m', hm', hy⟩ := hslot
    rw [hm] at hm'
    cases hm'
    rw [hy.unique hx]

lemma complete_of_gives {vs : Values fs} (hslots : SlotsFrom ms fs slots) (h : Gives ms fs vs) :
    Slots.complete fs slots = .ok vs := by
  induction fs with
  | nil => rfl
  | cons f fs ih =>
    obtain ⟨slot, slots⟩ := slots
    obtain rfl := hslots.1.eq_some h.1
    rw [Slots.complete, ih hslots.2 h.2]
    rfl

lemma Gives.exists_slot {vs : Values fs} (h : Gives ms fs vs) (hf : f ∈ fs) : ∃ x, SlotFrom ms f (some x) := by
  induction fs with
  | nil => cases hf
  | cons g fs ih =>
    rcases List.mem_cons.1 hf with rfl | hf
    · exact ⟨vs.1, h.1⟩
    · exact ih h.2 hf

lemma Gives.plainly {vs : Values fs} (h : Gives ms fs vs) (hkeys : ∀ m ∈ ms, (text? m.1).isSome) : Plainly fs ms where
  keys := hkeys
  once f hf := by
    obtain ⟨x, m, hm, -⟩ := h.exists_slot hf
    rw [List.countP_eq_length_filter, hm, List.length_singleton]
  reads f hf m hm hmeans := by
    obtain ⟨x, m', hm', hx⟩ := h.exists_slot hf
    have hmem : m ∈ ms.filter (f.means ·.1) := List.mem_filter.2 ⟨hm, hmeans⟩
    rw [hm', List.mem_singleton] at hmem
    exact ⟨x, hmem ▸ hx⟩

variable {before after : List Member} (hapart : Apart fs)
include hapart

theorem readObject_of_gives {vs : Values fs} (hkeys : ∀ m ∈ ms, (text? m.1).isSome) (h : Gives ms fs vs)
    (rest : List Token) : Shape.readObject fs (objectRest ms ++ rest) = .ok (vs, rest) := by
  obtain ⟨slots, hslots, hread⟩ := readMembers_from_empty hapart (h.plainly hkeys)
  rw [readObject_eq, hread, Shape.readMembers]
  simp only [bind, Except.bind, complete_of_gives hslots h]
  rfl

end Members

end DecodeBench.Json
