import DecodeBench.Engine
import Mathlib.Tactic.Common

/-! What a plan comes to is settled by the calls that it makes: they carry the testbed from its first
state to its last. -/

namespace DecodeBench

def Call.requests : Call → List Request
  | .decode w => w.toList
  | .clear | .share _ _ _ | .now => []

def decoded (cs : List Call) : List Request := cs.flatMap Call.requests

@[simp] lemma decoded_nil : decoded [] = [] := rfl

@[simp] lemma decoded_cons (c : Call) (cs : List Call) : decoded (c :: cs) = c.requests ++ decoded cs :=
  List.flatMap_cons

@[simp] lemma decoded_append (cs ds : List Call) : decoded (cs ++ ds) = decoded cs ++ decoded ds :=
  List.flatMap_append

lemma decoded_decodes (ws : List Window) : decoded (ws.map .decode) = ws.flatMap Window.toList := by
  rw [decoded, List.flatMap_map]
  rfl

namespace Testbed

variable {σ : Type} [Testbed σ]

def perform (s : σ) (c : Call) : σ := (answer c s).2

def after (s : σ) (cs : List Call) : σ := cs.foldl perform s

@[simp] lemma after_cons (s : σ) (c : Call) (cs : List Call) : after s (c :: cs) = after (perform s c) cs := rfl

@[simp] lemma after_append (s : σ) (cs ds : List Call) : after s (cs ++ ds) = after (after s cs) ds := List.foldl_append

end Testbed

namespace Engine

variable {ε : Type} [Engine ε]

def perform (e : ε) : Call → ε
  | .decode w => (Engine.decode w e).2
  | .clear => Engine.clear e
  | .share source target span => Engine.share source target span e
  | .now => e

def after (e : ε) (cs : List Call) : ε := cs.foldl perform e

@[simp] lemma after_cons (e : ε) (c : Call) (cs : List Call) : after e (c :: cs) = after (perform e c) cs := rfl

@[simp] lemma after_append (e : ε) (cs ds : List Call) : after e (cs ++ ds) = after (after e cs) ds :=
  List.foldl_append

def status? (e : ε) : Call → Option Int
  | .decode w => some (Engine.decode w e).1
  | _ => none

def statuses (e : ε) : List Call → List Int
  | [] => []
  | c :: cs => (status? e c).toList ++ statuses (perform e c) cs

def acceptedBy (e : ε) : Call → List (List Request)
  | .decode w => if (Engine.decode w e).1 = 0 then [w.toList] else []
  | _ => []

def accepted (e : ε) : List Call → List (List Request)
  | [] => []
  | c :: cs => acceptedBy e c ++ accepted (perform e c) cs

def standing (e : ε) : List Call → List (List Request)
  | [] => []
  | c :: cs => (if .clear ∈ cs then [] else acceptedBy e c) ++ standing (perform e c) cs

end Engine

namespace Rig

variable {ε κ : Type} [Engine ε] [Clock κ]

lemma perform_engine (s : Rig ε κ) (c : Call) : (Testbed.perform s c).engine = Engine.perform s.engine c := by
  cases c <;> rfl

lemma after_engine (s : Rig ε κ) (cs : List Call) : (Testbed.after s cs).engine = Engine.after s.engine cs := by
  induction cs generalizing s with
  | nil => rfl
  | cons c cs ih => rw [Testbed.after_cons, ih, perform_engine, Engine.after_cons]

end Rig

namespace Plan

variable {α β σ : Type} [Testbed σ]

@[simp] lemma bind_done (p : Plan α) : p.bind .done = p := by
  induction p with
  | done a => rfl
  | ask c next ih => simp [bind, ih]
  | emit r next ih => simp [bind, ih]

lemma bind_assoc {γ : Type} (p : Plan α) (f : α → Plan β) (g : β → Plan γ) :
    (p.bind f).bind g = p.bind fun a => (f a).bind g := by
  induction p with
  | done a => rfl
  | ask c next ih => simp [bind, ih]
  | emit r next ih => simp [bind, ih]

instance : LawfulMonad Plan :=
  LawfulMonad.mk' Plan (fun p => p.bind_done) (fun _ _ => rfl) fun p f g => p.bind_assoc f g

lemma run_bind (p : Plan α) (f : α → Plan β) (s : σ) (rs : Array Record) :
    (p.bind f).run s rs = (f (p.run s rs).1).run (p.run s rs).2.1 (p.run s rs).2.2 := by
  induction p generalizing s rs with
  | done a => rfl
  | ask c next ih => exact ih _ _ _
  | emit r next ih => exact ih _ _

lemma run_records (p : Plan α) (s : σ) (rs : Array Record) :
    p.run s rs = ((p.run s #[]).1, (p.run s #[]).2.1, rs ++ (p.run s #[]).2.2) := by
  induction p generalizing s rs with
  | done a => simp [run]
  | ask c next ih => exact ih _ _ _
  | emit r next ih =>
    simp only [run]
    rw [ih s (rs.push r), ih s (#[].push r)]
    simp

lemma calls_bind (p : Plan α) (f : α → Plan β) (s : σ) (rs : Array Record) :
    (p.bind f).calls s = p.calls s ++ (f (p.run s rs).1).calls (p.run s rs).2.1 := by
  induction p generalizing s rs with
  | done a => rfl
  | ask c next ih => exact congrArg (c :: ·) (ih _ _ rs)
  | emit r next ih => exact ih s (rs.push r)

lemma run_bed (p : Plan α) (s : σ) (rs : Array Record) : (p.run s rs).2.1 = Testbed.after s (p.calls s) := by
  induction p generalizing s rs with
  | done a => rfl
  | ask c next ih => exact ih _ _ rs
  | emit r next ih => exact ih s _

end Plan

end DecodeBench
