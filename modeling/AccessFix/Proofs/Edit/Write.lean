import AccessFix.Edit
import AccessFix.Proofs.Path

/-! Texts written to the files of their documents, one after the other. A write moves no folder, so every text goes where
it would have gone at first, and a route holds afterwards what was last written to it. -/
namespace AccessFix

namespace Files
open Fallible

abbrev Writing := Route × List UInt8

def holdingAll (files : Files) : List Writing → Files
  | [] => files
  | (route, octets) :: rest => (files.holding route octets).holdingAll rest

def lastAt (route : Route) : List Writing → Option (List UInt8)
  | [] => none
  | (r, octets) :: rest => (lastAt route rest).or (if r = route then some octets else none)

theorem holdingAllAppend (files : Files) (first second : List Writing) :
    files.holdingAll (first ++ second) = (files.holdingAll first).holdingAll second := by
  induction first generalizing files with
  | nil => rfl
  | cons w rest ih => exact ih _

theorem lastAtAppend (route : Route) (first second : List Writing) :
    lastAt route (first ++ second) = (lastAt route second).or (lastAt route first) := by
  induction first with
  | nil => simp [lastAt]
  | cons w rest ih => simp only [List.cons_append, lastAt, ih, Option.or_assoc]

theorem lastAtNone {route : Route} {writings : List Writing} :
    lastAt route writings = none ↔ ∀ w ∈ writings, w.1 ≠ route := by
  induction writings with
  | nil => simp [lastAt]
  | cons w rest ih =>
    simp only [lastAt, Option.or_eq_none_iff, ih, List.forall_mem_cons, ite_eq_right_iff, reduceCtorEq, imp_false]
    exact And.comm

theorem lastAtSome {route : Route} {writings : List Writing} {octets : List UInt8} :
    lastAt route writings = some octets ↔
      ∃ before after, writings = before ++ (route, octets) :: after ∧ ∀ w ∈ after, w.1 ≠ route := by
  constructor
  · intro last
    induction writings with
    | nil => simp [lastAt] at last
    | cons w rest ih =>
      rcases Option.or_eq_some_iff.mp last with later | ⟨none, here⟩
      · obtain ⟨before, after, rfl, free⟩ := ih later
        exact ⟨w :: before, after, rfl, free⟩
      · split at here
        · rename_i same
          cases here
          exact ⟨[], rest, by rw [← same]; rfl, lastAtNone.mp none⟩
        · contradiction
  · rintro ⟨before, after, rfl, free⟩
    simp [lastAtAppend, lastAt, lastAtNone.mpr free]

theorem nodeHoldingAll {files : Files} {writings : List Writing} (named : ∀ w ∈ writings, w.1 ≠ []) (route : Route) :
    (files.holdingAll writings).node? route = ((lastAt route writings).map .file).or (files.node? route) := by
  induction writings generalizing files with
  | nil => simp [holdingAll, lastAt]
  | cons w rest ih =>
    rw [List.forall_mem_cons] at named
    simp only [holdingAll, ih named.2, nodeHolding named.1, lastAt]
    cases lastAt route rest with
    | some octets => simp
    | none => by_cases here : route = w.1 <;> simp [here, eq_comm]

end Files

/-! Which write a text comes to. -/

open Files

abbrev Job := BufferId × Letters

structure Goes (buffers : Buffers) (files : Files) (job : Job) (w : Writing) : Prop where
  leads : ∃ d, buffers[job.1]? = some d ∧ Target files (Path.normal d.path) w.1
  octets : Text.Codec.utf8.encode job.2 = .ok w.2

abbrev Placed (buffers : Buffers) (files : Files) : List Job → List Writing → Prop :=
  List.Forall₂ (Goes buffers files)

def kept (buffers : Buffers) (job : Job) : Job := (job.1, (buffers[job.1]?.getD default).text)

variable {buffers : Buffers} {files now : Files} {jobs : List Job} {writings : List Writing}

theorem goesSame (same : SameFolders files now) {job : Job} {w : Writing} (goes : Goes buffers files job w) :
    Goes buffers now job w := by
  obtain ⟨⟨d, opened, leads⟩, octets⟩ := goes
  exact ⟨⟨d, opened, leads.kept same⟩, octets⟩

theorem goesNamed {job : Job} {w : Writing} (goes : Goes buffers files job w) : w.1 ≠ [] := by
  obtain ⟨⟨_, _, leads⟩, _⟩ := goes
  exact leads.routeNamed

theorem placedNamed (placed : Placed buffers files jobs writings) : ∀ w ∈ writings, w.1 ≠ [] := by
  intro w mem
  obtain ⟨job, _, goes⟩ := Fallible.pairedLeft placed mem
  exact goesNamed goes

theorem goesHolding {job : Job} {w : Writing} (goes : Goes buffers files job w) :
    SameFolders files (files.holding w.1 w.2) := by
  obtain ⟨⟨_, _, leads⟩, _⟩ := goes
  exact sameFoldersHolding leads.routeNamed leads.noFolder w.2

theorem placedHolding (placed : Placed buffers files jobs writings) (same : SameFolders files now) :
    SameFolders files (now.holdingAll writings) := by
  induction placed generalizing now with
  | nil => exact same
  | cons goes _ ih => exact ih (same.trans (goesHolding (goesSame same goes)))

theorem goesWrite {id : BufferId} {text : Letters} {d : Document} (opened : buffers[id]? = some d) {next : Files}
    (wrote : files.writeText (Path.normal d.path) text = (.ok (), next)) :
    ∃ w, Goes buffers files (id, text) w ∧ next = files.holding w.1 w.2 := by
  obtain ⟨octets, coded, wrote⟩ := writeTextOk.mp wrote
  obtain ⟨route, leads, rfl⟩ := writeOk.mp wrote
  exact ⟨(route, octets), ⟨⟨d, opened, leads⟩, coded⟩, rfl⟩

/-! How writing many texts ends. -/

/-- The texts are all written, or one of them is not: a refused write gives the documents before it their files with
the old texts. -/
inductive Ending (buffers : Buffers) (files : Files) (jobs : List Job) : Except EditFault Unit × Files → Prop where
  | whole {writings : List Writing} (placed : Placed buffers files jobs writings) :
      Ending buffers files jobs (.ok (), files.holdingAll writings)
  | refused {first : List Job} {id : BufferId} {text : Letters} {rest : List Job} {d : Document} {f : FileFault}
      {writings : List Writing} {restored : Except WriteFault Unit} {after next : Files}
      (split : jobs = first ++ (id, text) :: rest) (placed : Placed buffers files first writings)
      (opened : buffers[id]? = some d)
      (failed : (files.holdingAll writings).writeText (Path.normal d.path) text = (.error (.file f), after))
      (back : restore buffers (files.holdingAll writings) (first.map Prod.fst) = (restored, next)) :
      Ending buffers files jobs (match restored with
        | .ok () => .error (.unwritable d.path f)
        | .error fault => .error (.unusable fault), next)
  | unusable {first : List Job} {id : BufferId} {text : Letters} {rest : List Job} {d : Document} {fault : WriteFault}
      {writings : List Writing} {next : Files} (split : jobs = first ++ (id, text) :: rest)
      (placed : Placed buffers files first writings) (opened : buffers[id]? = some d)
      (failed : (files.holdingAll writings).writeText (Path.normal d.path) text = (.error fault, next)) :
      Ending buffers files jobs (.error (.unusable fault), next)

theorem writeAllFrom {first rest : List Job} (placed : Placed buffers files first writings)
    (opened : ∀ job ∈ rest, ∃ d, buffers[job.1]? = some d) :
    Ending buffers files (first ++ rest)
      (writeAll buffers (files.holdingAll writings) (first.map Prod.fst) rest) := by
  -- on the jobs that are left; those that are done are placed in the tree as it was at first
  induction rest generalizing first writings with
  | nil =>
    rw [List.append_nil]
    exact .whole placed
  | cons job rest ih =>
    obtain ⟨id, text⟩ := job
    obtain ⟨⟨d, here⟩, later⟩ := List.forall_mem_cons.mp opened
    simp only [writeAll, here]
    split
    · rename_i wrote
      obtain ⟨w, goes, rfl⟩ := goesWrite here wrote
      have more : Placed buffers files (first ++ [(id, text)]) (writings ++ [w]) :=
        List.rel_append placed (.cons (goesSame (placedHolding placed (.refl files)).symm goes) .nil)
      have step := ih more later
      rw [holdingAllAppend, List.map_append, List.append_assoc] at step
      exact step
    · rename_i wrote
      exact .unusable rfl placed here wrote
    · rename_i f _ wrote
      split
      · obtain rfl := (writeTextRefused.mp wrote).2
        split <;> rename_i back
        · exact .refused rfl placed here wrote back
        · exact .refused rfl placed here wrote back
      · exact .unusable rfl placed here wrote

theorem writeAllEnding (files : Files) (opened : ∀ job ∈ jobs, ∃ d, buffers[job.1]? = some d) :
    Ending buffers files jobs (writeAll buffers files [] jobs) :=
  writeAllFrom .nil opened

theorem writeAllOk (opened : ∀ job ∈ jobs, ∃ d, buffers[job.1]? = some d) {next : Files}
    (ok : writeAll buffers files [] jobs = (.ok (), next)) :
    ∃ writings, Placed buffers files jobs writings ∧ next = files.holdingAll writings := by
  generalize result : writeAll buffers files [] jobs = outcome at ok
  cases result ▸ writeAllEnding files opened with
  | whole placed =>
    cases ok
    exact ⟨_, placed, rfl⟩
  | @refused _ _ _ _ _ _ _ restored => cases restored <;> cases ok
  | unusable => cases ok

theorem saveOk {d : Document} {next : Files} :
    d.save files = (.ok (), next) ↔ ∃ octets route, Text.Codec.utf8.encode d.text = .ok octets ∧
      Target files (Path.normal d.path) route ∧ next = files.holding route octets := by
  simp only [Document.save, writeTextOk, writeOk]
  exact ⟨fun ⟨octets, coded, route, there⟩ => ⟨octets, route, coded, there⟩,
    fun ⟨octets, route, coded, there⟩ => ⟨octets, coded, route, there⟩⟩

theorem restorePlaced (placed : Placed buffers files jobs writings) (same : SameFolders files now) {next : Files}
    (restored : restore buffers now (jobs.map Prod.fst) = (.ok (), next)) :
    ∃ back, Placed buffers files (jobs.map (kept buffers)) back ∧ back.map Prod.fst = writings.map Prod.fst ∧
      next = now.holdingAll back := by
  induction placed generalizing now with
  | nil =>
    cases restored
    exact ⟨[], .nil, rfl, rfl⟩
  | @cons job w jobs writings goes _ ih =>
    obtain ⟨d, opened, leads⟩ := goes.leads
    simp only [List.map_cons, restore, opened] at restored
    split at restored
    · rename_i saved
      obtain ⟨octets, route, coded, leadsNow, rfl⟩ := saveOk.mp saved
      obtain rfl : w.1 = route := targetUnique (leads.kept same) leadsNow
      obtain ⟨back, again, routes, rfl⟩ :=
        ih (same.trans (sameFoldersHolding leadsNow.routeNamed leadsNow.noFolder octets)) restored
      have text : (kept buffers job).2 = d.text := by rw [kept, opened, Option.getD_some]
      have goesBack : Goes buffers files (kept buffers job) (w.1, octets) := by
        refine ⟨⟨d, opened, leads⟩, ?_⟩
        rw [text, coded]
      refine ⟨(w.1, octets) :: back, ?_, ?_, rfl⟩
      · rw [List.map_cons]
        exact .cons goesBack again
      · rw [List.map_cons, List.map_cons, routes]
    · cases restored

theorem writeAllRefused (opened : ∀ job ∈ jobs, ∃ d, buffers[job.1]? = some d) {path : String} {f : FileFault}
    {next : Files} (refused : writeAll buffers files [] jobs = (.error (.unwritable path f), next)) :
    ∃ first id text rest d writings back, jobs = first ++ (id, text) :: rest ∧ Placed buffers files first writings ∧
      Placed buffers files (first.map (kept buffers)) back ∧ back.map Prod.fst = writings.map Prod.fst ∧
      next = files.holdingAll (writings ++ back) ∧ buffers[id]? = some d ∧ d.path = path ∧
      ∀ route, ¬Target files (Path.normal d.path) route := by
  generalize result : writeAll buffers files [] jobs = outcome at refused
  cases result ▸ writeAllEnding files opened with
  | whole => cases refused
  | unusable => cases refused
  | @refused first id text rest d _ writings restored _ next split placed here failed restores =>
    cases restored with
    | error fault => cases refused
    | ok =>
      cases refused
      have same := placedHolding placed (.refl files)
      obtain ⟨back, again, routes, rfl⟩ := restorePlaced placed same restores
      refine ⟨first, id, text, rest, d, writings, back, split, placed, again, routes, ?_, here, rfl, ?_⟩
      · rw [holdingAllAppend]
      · intro route leads
        obtain ⟨⟨fault, target, _⟩, _⟩ := writeTextRefused.mp failed
        cases target.symm.trans (targetOk.mpr (leads.kept same))

end AccessFix
