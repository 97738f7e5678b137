import AccessFix.Files
import AccessFix.Proofs.Fallible

/-! Writing files. A write sets the octets of one file and leaves every other route as it was. It makes and removes no
folder, so the paths that lead to a file before it are those that lead to it after it. Where a file is not found, read or
written, that is refused, unless the path holds the character zero. -/
namespace AccessFix.Files
open Fallible

def holding (files : Files) (route : Route) (octets : List UInt8) : Files :=
  { files with nodes := put route (.file octets) files.nodes }

theorem findPut (route other : Route) (node : Node) (nodes : List (Route × Node)) :
    (put route node nodes).find? (fun n => n.1 = other) =
      if other = route then some (route, node) else nodes.find? (fun n => n.1 = other) := by
  induction nodes with
  | nil =>
    by_cases h : other = route
    · simp [put, h]
    · simp [put, h, Ne.symm h]
  | cons entry rest ih =>
    obtain ⟨r, n⟩ := entry
    by_cases here : r = route
    · subst here
      by_cases h : other = r
      · simp [put, h]
      · simp [put, h, Ne.symm h]
    · simp only [put, if_neg here, List.find?_cons, ih]
      by_cases h : other = route
      · simp [h, here]
      · simp [h]

theorem nodeHolding {files : Files} {route : Route} (named : route ≠ []) (octets : List UInt8) (other : Route) :
    (files.holding route octets).node? other =
      if other = route then some (.file octets) else files.node? other := by
  by_cases root : other = []
  · simp [node?, root, Ne.symm named]
  · simp only [node?, holding, List.isEmpty_iff, root, if_false, findPut]
    by_cases h : other = route <;> simp [h]

/-! What two trees have in common as long as only files are written. -/

structure SameFolders (a b : Files) : Prop where
  here : a.here = b.here
  readOnly : a.readOnly = b.readOnly
  folder : ∀ route, a.node? route = some .folder ↔ b.node? route = some .folder

theorem SameFolders.refl (a : Files) : SameFolders a a := ⟨rfl, rfl, fun _ => Iff.rfl⟩

theorem SameFolders.symm {a b : Files} (same : SameFolders a b) : SameFolders b a :=
  ⟨same.here.symm, same.readOnly.symm, fun route => (same.folder route).symm⟩

theorem SameFolders.trans {a b c : Files} (left : SameFolders a b) (right : SameFolders b c) : SameFolders a c :=
  ⟨left.here.trans right.here, left.readOnly.trans right.readOnly,
    fun route => (left.folder route).trans (right.folder route)⟩

theorem sameFoldersHolding {files : Files} {route : Route} (named : route ≠ [])
    (noFolder : files.node? route ≠ some .folder) (octets : List UInt8) :
    SameFolders files (files.holding route octets) := by
  refine ⟨rfl, rfl, fun other => ?_⟩
  rw [nodeHolding named]
  by_cases h : other = route
  · simp [h, noFolder]
  · simp [h]

theorem locateSame {a b : Files} (same : SameFolders a b) {route found : Route} {names : List String}
    (located : a.locate route names = .ok found) : b.locate route names = .ok found := by
  induction names generalizing route with
  | nil => exact located
  | cons n rest ih =>
    simp only [locate] at located ⊢
    split at located
    · contradiction
    · contradiction
    · rename_i folder
      rw [(same.folder route).mp folder]
      split at located
      · contradiction
      · rename_i short
        simp only [short, if_false]
        exact ih located

theorem locateRefusal {files : Files} {route : Route} {names : List String} {fault : PathFault}
    (failed : files.locate route names = .error fault) : fault.isRefusal = true := by
  induction names generalizing route with
  | nil => simp [locate] at failed
  | cons n rest ih =>
    simp only [locate] at failed
    split at failed
    · cases failed
      rfl
    · cases failed
      rfl
    · split at failed
      · cases failed
        rfl
      · exact ih failed

/-! The route that a path is written to. -/

structure Target (files : Files) (path : String) (route : Route) : Prop where
  checked : checkPath path = .ok ()
  named : endsInFolder path = false
  located : files.locate (files.origin path) (Path.names path) = .ok route
  noFolder : files.node? route ≠ some .folder
  writable : route ∉ files.readOnly

theorem targetOk {files : Files} {path : String} {route : Route} :
    files.target path = .ok route ↔ Target files path route := by
  constructor
  · intro ok
    obtain ⟨_, checked, ok⟩ := bindOk.mp ok
    split at ok
    · obtain ⟨_, _, never⟩ := bindOk.mp ok
      exact absurd never throwOk
    · rename_i named
      obtain ⟨r, located, ok⟩ := bindOk.mp ok
      split at ok
      · exact absurd ok throwOk
      · rename_i noFolder
        split at ok
        · exact absurd ok throwOk
        · rename_i writable
          obtain rfl := pureOk.mp ok
          exact ⟨checked, by simpa using named, located, noFolder, writable⟩
  · intro t
    simp only [target, bindOk, t.named, Bool.false_eq_true, if_false]
    refine ⟨(), t.checked, route, t.located, ?_⟩
    simp only [t.noFolder, t.writable, if_false, pureOk]

theorem targetUnique {files : Files} {path : String} {route other : Route} (one : Target files path route)
    (two : Target files path other) : route = other := by
  have found := (targetOk.mpr one).symm.trans (targetOk.mpr two)
  rwa [Except.ok.injEq] at found

theorem Target.routeNamed {files : Files} {path : String} {route : Route} (t : Target files path route) :
    route ≠ [] := by
  intro root
  exact t.noFolder (by simp [node?, root])

theorem Target.kept {a b : Files} (same : SameFolders a b) {path : String} {route : Route} (t : Target a path route) :
    Target b path route := by
  have origin : b.origin path = a.origin path := by simp only [origin, same.here]
  refine ⟨t.checked, t.named, ?_, ?_, same.readOnly ▸ t.writable⟩
  · rw [origin]
    exact locateSame same t.located
  · exact fun folder => t.noFolder ((same.folder route).mpr folder)

theorem writeOk {files next : Files} {path : String} {octets : List UInt8} :
    files.write path octets = .ok next ↔
      ∃ route, Target files path route ∧ next = files.holding route octets := by
  unfold write
  cases target : files.target path with
  | error e =>
    simp only [reduceCtorEq, false_iff, not_exists, not_and]
    intro route leads
    rw [targetOk.mpr leads] at target
    contradiction
  | ok r =>
    constructor
    · intro ok
      cases ok
      exact ⟨r, targetOk.mp target, rfl⟩
    · rintro ⟨route, leads, rfl⟩
      rw [targetOk.mpr leads] at target
      cases target
      rfl

theorem writeSame {files next : Files} {path : String} {octets : List UInt8} (ok : files.write path octets = .ok next) :
    SameFolders files next := by
  obtain ⟨route, leads, rfl⟩ := writeOk.mp ok
  exact sameFoldersHolding leads.routeNamed leads.noFolder octets

theorem findTarget {files : Files} {path : String} {route : Route} (leads : Target files path route) :
    files.find path = match files.node? route with
      | some node => .ok node
      | none => .error .missing := by
  simp only [find, leads.checked, leads.located, bind, Except.bind]
  cases files.node? route <;> rfl

theorem targetMissing {files : Files} {path : String} {route : Route} (leads : Target files path route)
    (absent : files.find? path = .ok none) : files.node? route = none := by
  simp only [find?, findTarget leads] at absent
  cases node : files.node? route with
  | none => rfl
  | some n =>
    rw [node] at absent
    cases absent

theorem readTarget {files : Files} {path : String} {route : Route} (leads : Target files path route)
    {octets : List UInt8} : files.read path = .ok octets ↔ files.node? route = some (.file octets) := by
  unfold read
  rw [findTarget leads]
  have noFolder := leads.noFolder
  cases node : files.node? route with
  | none => simp
  | some n =>
    cases n with
    | folder => exact absurd node noFolder
    | file others => simp

theorem readWritten {files next : Files} {path : String} {octets : List UInt8}
    (ok : files.write path octets = .ok next) : next.read path = .ok octets := by
  have same := writeSame ok
  obtain ⟨route, leads, rfl⟩ := writeOk.mp ok
  have after := leads.kept same
  rw [readTarget after, nodeHolding leads.routeNamed]
  simp

theorem checkPathZero {path : String} (zero : ∃ c ∈ path.toList, c.toNat = 0) :
    checkPath path = .error .zeroCharacter := by
  simp only [checkPath]
  rw [if_pos (by simpa using zero)]

theorem checkPathRefusal {path : String} {fault : PathFault} (noZero : ¬∃ c ∈ path.toList, c.toNat = 0)
    (failed : checkPath path = .error fault) : fault.isRefusal = true := by
  simp only [checkPath] at failed
  rw [if_neg (by simpa using noZero)] at failed
  split at failed
  · cases failed
    rfl
  · split at failed
    · cases failed
      rfl
    · contradiction

theorem targetRefusal {files : Files} {path : String} {fault : PathFault} (failed : files.target path = .error fault) :
    fault.isRefusal = false ↔ ∃ c ∈ path.toList, c.toNat = 0 := by
  constructor
  · intro unasked
    by_contra noZero
    have asked : fault.isRefusal = true := by
      rcases bindError.mp failed with unchecked | ⟨_, _, failed⟩
      · exact checkPathRefusal noZero unchecked
      · split at failed
        · rcases bindError.mp failed with unlocated | ⟨_, _, thrown⟩
          · exact locateRefusal unlocated
          · cases thrown
            rfl
        · rcases bindError.mp failed with unlocated | ⟨_, _, failed⟩
          · exact locateRefusal unlocated
          · split at failed
            · cases failed
              rfl
            · split at failed
              · cases failed
                rfl
              · exact absurd failed pureError
    rw [asked] at unasked
    contradiction
  · intro zero
    rcases bindError.mp failed with unchecked | ⟨_, checked, _⟩
    · rw [checkPathZero zero] at unchecked
      cases unchecked
      rfl
    · rw [checkPathZero zero] at checked
      contradiction

def HoldsText (files : Files) (route : Route) (text : Letters) : Prop :=
  ∃ octets, Text.Codec.utf8.encode text = .ok octets ∧ files.node? route = some (.file octets)

theorem writeTextOk {files next : Files} {path : String} {text : Letters} :
    files.writeText path text = (.ok (), next) ↔
      ∃ octets, Text.Codec.utf8.encode text = .ok octets ∧ files.write path octets = .ok next := by
  unfold writeText
  cases coded : Text.Codec.utf8.encode text with
  | ok octets => cases wrote : files.write path octets <;> simp [wrote, Except.toOption, Except.mapError, Except.map]
  | error f => cases wrote : files.write path [] <;> simp [wrote, Except.toOption, Except.mapError, Except.map]

theorem writeTextRefused {files next : Files} {path : String} {text : Letters} {f : FileFault} :
    files.writeText path text = (.error (.file f), next) ↔
      (∃ fault, files.target path = .error fault ∧ f = ⟨fault, path⟩) ∧ next = files := by
  unfold writeText write
  cases files.target path with
  | error fault => simp [eq_comm]
  | ok route => cases Text.Codec.utf8.encode text <;> simp [Except.mapError, Except.map]

theorem writeTextUnencodable {files next : Files} {path : String} {text : Letters} {f : Text.Unencodable} :
    files.writeText path text = (.error (.encoding f), next) ↔
      Text.Codec.utf8.encode text = .error f ∧ files.write path [] = .ok next := by
  unfold writeText
  cases coded : Text.Codec.utf8.encode text with
  | ok octets => cases wrote : files.write path octets <;> simp [wrote, Except.toOption, Except.mapError, Except.map]
  | error f => cases wrote : files.write path [] <;> simp [wrote, Except.toOption, Except.mapError, Except.map]

theorem findSome {files : Files} {path : String} {node : Node} :
    files.find? path = .ok (some node) ↔ files.find path = .ok node := by
  unfold find?
  cases files.find path with
  | ok found => simp
  | error fault => cases fault <;> simp

theorem findRefusal {files : Files} {path : String} {f : FileFault} (failed : files.find? path = .error f) :
    f.fault.isRefusal = true := by
  unfold find? at failed
  split at failed <;> cases failed
  rfl

theorem readRefusal {files : Files} {path : String} {node : Node} {f : FileFault}
    (there : files.find? path = .ok (some node)) (failed : files.read path = .error f) : f.fault.isRefusal = true := by
  rw [read, findSome.mp there] at failed
  cases node <;> cases failed
  rfl

end AccessFix.Files
