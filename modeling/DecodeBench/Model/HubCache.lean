import DecodeBench.Model.Source

/-! A hub out of reach: all there is of it is the cache of files that were fetched before. -/

namespace DecodeBench.Model.HubCache

variable {m : Type → Type} [Monad m]

def folder (model : String) : String := "models--" ++ "--".intercalate (model.splitOn "/")

def file? (files : FileAccess m) (cache model revision name : String) : m (Option String) := do
  let folder := joinPath cache (folder model)
  match ← files.read (joinPath (joinPath folder "refs") revision) with
  | none => return none
  | some commit =>
    match String.fromUTF8? ⟨commit.toArray⟩ with
    | none => return none
    | some commit =>
      let path := joinPath (joinPath (joinPath folder "snapshots") commit) name
      return if ← files.isFile path then some path else none

def hub (files : FileAccess m) (cache : String) : Hub m where
  connect := return .ok ()
  fetch model revision name := do
    match ← file? files cache model revision name with
    | some path => return .ok path
    | none => return .error "not in the cache"

end DecodeBench.Model.HubCache
