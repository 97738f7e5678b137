import AccessFix.Proofs.Files

/-! Paths and the routes that they lead to. The normal form of a path has the steps of the path, so both lead to one route,
and where following names through a tree ends, it ends at the route that the names give by themselves. -/
namespace AccessFix

namespace Path

theorem pieceFree {c : Char} {cs piece : List Char} (mem : piece ∈ cs.splitOn c) : c ∉ piece := by
  induction cs generalizing piece with
  | nil => simp_all
  | cons d cs ih =>
    rw [List.splitOn_cons_eq_if_modifyHead] at mem
    split at mem
    · rcases List.mem_cons.mp mem with rfl | rest
      · simp
      · exact ih rest
    · rename_i other
      cases pieces : cs.splitOn c with
      | nil => simp [pieces] at mem
      | cons first rest =>
        rw [pieces, List.modifyHead_cons] at mem
        rcases List.mem_cons.mp mem with rfl | later
        · have free : c ∉ first := ih (by rw [pieces]; simp)
          have differ : c ≠ d := fun same => other (by simp [same])
          simp [free, differ]
        · exact ih (by rw [pieces]; simp [later])

structure IsStep (n : String) : Prop where
  nonempty : n ≠ ""
  notDot : n ≠ "."
  whole : '/' ∉ n.toList

instance (n : String) : Decidable (IsStep n) :=
  decidable_of_iff (n ≠ "" ∧ n ≠ "." ∧ '/' ∉ n.toList)
    ⟨fun ⟨nonempty, notDot, whole⟩ => ⟨nonempty, notDot, whole⟩, fun ⟨nonempty, notDot, whole⟩ => ⟨nonempty, notDot, whole⟩⟩

theorem stepIsStep (path : String) {n : String} (mem : n ∈ steps path) : IsStep n := by
  obtain ⟨name, counts⟩ := List.mem_filter.mp mem
  obtain ⟨piece, there, rfl⟩ := List.mem_map.mp name
  simp only [ne_eq, Bool.and_eq_true, decide_eq_true_eq] at counts
  exact ⟨counts.1, counts.2, by simpa using pieceFree there⟩

theorem stepsOfJoined {front : List Char} {ns : List String} (slashes : ∀ c ∈ front, c = '/')
    (isStep : ∀ n ∈ ns, IsStep n) :
    steps (String.ofList (front ++ ['/'].intercalate (ns.map String.toList))) = ns := by
  simp only [steps, names, String.toList_ofList]
  induction front with
  | nil =>
    by_cases none : ns = []
    · simp [none]
    · rw [List.nil_append, List.splitOn_intercalate]
      · have back : (ns.map String.toList).map String.ofList = ns := by simp
        rw [back]
        apply List.filter_eq_self.mpr
        intro n mem
        simp [(isStep n mem).nonempty, (isStep n mem).notDot]
      · intro cs mem
        obtain ⟨n, there, rfl⟩ := List.mem_map.mp mem
        exact (isStep n there).whole
      · simpa using none
  | cons c front ih =>
    obtain rfl := slashes c (by simp)
    rw [List.cons_append, List.splitOn_cons_eq_if_modifyHead]
    simpa using ih fun d mem => slashes d (by simp [mem])

theorem rootSlashes (path : String) : ∀ c ∈ (root path).toList, c = '/' := by
  intro c mem
  simp only [root] at mem
  split at mem
  · simp at mem
  · split at mem <;> simpa using mem

theorem stepsBody (path : String) : steps (root path ++ "/".intercalate (steps path)) = steps path := by
  have joined := stepsOfJoined (rootSlashes path) fun _ mem => stepIsStep path mem
  rw [← String.toList_singleton, ← String.toList_intercalate, ← String.toList_append, String.ofList_toList] at joined
  exact joined

theorem stepsNormal (path : String) : steps (normal path) = steps path := by
  simp only [normal]
  split
  · rename_i empty
    have none := stepsBody path
    rw [empty] at none
    rw [← none]
    decide
  · exact stepsBody path

theorem rootAbsolute (path : String) : isAbsolute path = true ↔ root path ≠ "" := by
  simp only [isAbsolute, root, decide_eq_true_eq]
  cases path.toList with
  | nil => simp
  | cons c cs =>
    by_cases slash : c = '/'
    · simp only [List.head?_cons, slash, List.takeWhile_cons, decide_true, if_true, List.length_cons]
      split
      · omega
      · split <;> simp
    · simp [slash]

theorem headAbsolute {path : String} {c : Char} {cs : List Char} (text : path.toList = c :: cs) :
    isAbsolute path = decide (c = '/') := by
  simp [isAbsolute, text]

theorem absoluteNormal (path : String) : isAbsolute (normal path) = isAbsolute path := by
  simp only [normal]
  cases front : (root path).toList with
  | cons c cs =>
    have slash : c = '/' := rootSlashes path c (by rw [front]; simp)
    have rooted : root path ≠ "" := by
      intro empty
      simp [empty] at front
    have body : (root path ++ "/".intercalate (steps path)).toList = c :: (cs ++ ("/".intercalate (steps path)).toList) := by
      rw [String.toList_append, front, List.cons_append]
    rw [if_neg (by intro empty; rw [empty] at body; simp at body), headAbsolute body, (rootAbsolute path).mpr rooted]
    simpa using slash
  | nil =>
    have unrooted : root path = "" := String.toList_eq_nil_iff.mp front
    have relative : isAbsolute path = false := by
      rw [← Bool.not_eq_true, rootAbsolute]
      simp [unrooted]
    rw [relative, unrooted, String.empty_append]
    cases ns : steps path with
    | nil => decide
    | cons n rest =>
      have isStep : IsStep n := stepIsStep path (by rw [ns]; simp)
      cases text : n.toList with
      | nil => exact absurd (String.toList_eq_nil_iff.mp text) isStep.nonempty
      | cons c cs =>
        have differ : c ≠ '/' := by
          intro slash
          exact isStep.whole (by rw [text, slash]; simp)
        have body : ∃ more, ("/".intercalate (n :: rest)).toList = c :: more := by
          rw [String.toList_intercalate]
          cases rest <;> simp [text]
        obtain ⟨more, body⟩ := body
        rw [if_neg (by intro empty; rw [empty] at body; simp at body), headAbsolute body]
        simpa using differ

theorem resolveNormal (here : Route) (path : String) : resolve here (normal path) = resolve here path := by
  simp only [resolve, absoluteNormal, stepsNormal]

/-! Routes whose names are those of steps. -/

def Plain (route : Route) : Prop := ∀ n ∈ route, IsStep n ∧ n ≠ ".."

instance (route : Route) : Decidable (Plain route) := inferInstanceAs (Decidable (∀ n ∈ route, IsStep n ∧ n ≠ ".."))

theorem followPlain {route : Route} {names : List String} (plain : Plain route) (isStep : ∀ n ∈ names, IsStep n) :
    Plain (follow route names) := by
  induction names generalizing route with
  | nil => exact plain
  | cons n rest ih =>
    obtain ⟨here, later⟩ := List.forall_mem_cons.mp isStep
    refine ih ?_ later
    split
    · exact fun m mem => plain m (List.mem_of_mem_dropLast mem)
    · rename_i down
      exact List.forall_mem_append.mpr ⟨plain, List.forall_mem_singleton.mpr ⟨here, down⟩⟩

theorem resolvePlain {here : Route} (plain : Plain here) (path : String) : Plain (resolve here path) := by
  refine followPlain ?_ fun n mem => stepIsStep path mem
  split
  · simp [Plain]
  · exact plain

theorem followDown {route : Route} {names : List String} (down : ∀ n ∈ names, n ≠ "..") :
    follow route names = route ++ names := by
  induction names generalizing route with
  | nil => simp [follow]
  | cons n rest ih =>
    obtain ⟨here, later⟩ := List.forall_mem_cons.mp down
    rw [follow, if_neg here, ih later]
    simp

theorem stepsOfRoute {route : Route} (plain : Plain route) : steps (ofRoute route) = route := by
  have slash : ∀ c ∈ ['/'], c = '/' := by simp
  have joined := stepsOfJoined slash fun n mem => (plain n mem).1
  rw [← String.toList_singleton, ← String.toList_intercalate, ← String.toList_append, String.ofList_toList] at joined
  exact joined

theorem resolveOfRoute {route : Route} (plain : Plain route) (here : Route) : resolve here (ofRoute route) = route := by
  have absolute : isAbsolute (ofRoute route) = true := by simp [isAbsolute, ofRoute]
  rw [resolve, absolute, if_pos rfl, stepsOfRoute plain, followDown fun n mem => (plain n mem).2, List.nil_append]

theorem normalOfRoute {route : Route} (plain : Plain route) : normal (ofRoute route) = ofRoute route := by
  have rooted : root (ofRoute route) = "/" := by
    have slashes : ((ofRoute route).toList.takeWhile (· = '/')).length = 1 := by
      cases route with
      | nil => decide
      | cons n rest =>
        obtain ⟨⟨nonempty, _, whole⟩, _⟩ := plain n (by simp)
        obtain ⟨c, cs, text⟩ := List.exists_cons_of_ne_nil fun none => nonempty (String.toList_eq_nil_iff.mp none)
        have differ : c ≠ '/' := by
          rintro rfl
          exact whole (by simp [text])
        cases rest <;> simp [ofRoute, String.toList_intercalate, text, differ]
    simp [root, slashes]
  have named : ofRoute route ≠ "" := fun empty => by simpa [ofRoute] using congrArg String.toList empty
  rw [normal, rooted, stepsOfRoute plain, ← ofRoute]
  exact if_neg named

/-! The characters of a path other than slashes and dots are those of its steps, so the normal form has the same. -/

theorem pieceHas {c d : Char} (differ : c ≠ d) {cs : List Char} : c ∈ cs ↔ ∃ piece ∈ cs.splitOn d, c ∈ piece := by
  induction cs with
  | nil => simp
  | cons e cs ih =>
    rw [List.splitOn_cons_eq_if_modifyHead]
    split
    · rename_i same
      have other : c ≠ e := fun h => differ (h.trans (by simpa using same))
      simp [other, ih]
    · cases pieces : cs.splitOn d with
      | nil => simp at pieces
      | cons first rest =>
        rw [List.mem_cons, ih, pieces]
        simp [or_assoc]

theorem stepHas {c : Char} (notSlash : c ≠ '/') (notDot : c ≠ '.') (path : String) :
    c ∈ path.toList ↔ ∃ n ∈ steps path, c ∈ n.toList := by
  rw [pieceHas notSlash]
  constructor
  · rintro ⟨piece, there, has⟩
    have nonempty : piece ≠ [] := List.ne_nil_of_mem has
    have solid : piece ≠ ['.'] := fun dot => notDot (by simpa [dot] using has)
    have counts : (String.ofList piece ≠ "" && String.ofList piece ≠ ".") = true := by
      simp only [ne_eq, ← String.toList_inj, String.toList_ofList, Bool.and_eq_true, decide_eq_true_eq]
      exact ⟨nonempty, solid⟩
    exact ⟨String.ofList piece, List.mem_filter.mpr ⟨List.mem_map_of_mem there, counts⟩, by simpa using has⟩
  · rintro ⟨n, counts, has⟩
    obtain ⟨piece, there, rfl⟩ := List.mem_map.mp (List.mem_of_mem_filter counts)
    exact ⟨piece, there, by simpa using has⟩

theorem normalHas {c : Char} (notSlash : c ≠ '/') (notDot : c ≠ '.') (path : String) :
    c ∈ (normal path).toList ↔ c ∈ path.toList := by
  rw [stepHas notSlash notDot, stepHas notSlash notDot, stepsNormal]

def HasZero (path : String) : Prop := ∃ c ∈ path.toList, c.toNat = 0

theorem normalHasZero (path : String) : HasZero (normal path) ↔ HasZero path := by
  refine exists_congr fun c => and_congr_left fun zero => normalHas ?_ ?_ path
  · rintro rfl
    contradiction
  · rintro rfl
    contradiction

end Path

namespace Files
open Fallible

theorem locateFollow {files : Files} {route found : Route} {names : List String}
    (located : files.locate route names = .ok found) :
    found = Path.follow route (names.filter fun n => n ≠ "" && n ≠ ".") := by
  induction names generalizing route with
  | nil =>
    cases located
    rfl
  | cons n rest ih =>
    simp only [locate] at located
    split at located
    · contradiction
    · contradiction
    · split at located
      · contradiction
      · rw [ih located]
        by_cases up : n = ".."
        · subst up
          simp [Path.follow]
        · by_cases still : n = "" ∨ n = "."
          · rcases still with rfl | rfl <;> simp
          · obtain ⟨nonempty, notDot⟩ := not_or.mp still
            simp [up, nonempty, notDot, Path.follow]

theorem Target.follows {files : Files} {path : String} {route : Route} (leads : Target files path route) :
    route = Path.resolve files.here path := by
  rw [locateFollow leads.located]
  rfl

theorem Target.resolved {files : Files} {path : String} {route : Route}
    (leads : Target files (Path.normal path) route) : route = Path.resolve files.here path := by
  rw [leads.follows, Path.resolveNormal]

theorem targetZero {files : Files} {path : String} : files.target path = .error .zeroCharacter ↔ Path.HasZero path :=
  ⟨fun failed => (targetRefusal failed).mp rfl, fun zero => bindError.mpr (.inl (checkPathZero zero))⟩

theorem findZero {files : Files} {path : String} (failed : files.find path = .error .zeroCharacter) :
    Path.HasZero path := by
  by_contra noZero
  rcases bindError.mp failed with unchecked | ⟨_, _, failed⟩
  · cases checkPathRefusal noZero unchecked
  · rcases bindError.mp failed with unlocated | ⟨route, _, failed⟩
    · cases locateRefusal unlocated
    · split at failed
      · exact absurd failed pureError
      · cases failed

theorem Target.plain {files : Files} {path : String} {route : Route} (leads : Target files (Path.normal path) route) :
    ¬Path.HasZero path := by
  intro zero
  have checked := leads.checked
  rw [checkPathZero ((Path.normalHasZero path).mpr zero)] at checked
  contradiction

end Files

end AccessFix
