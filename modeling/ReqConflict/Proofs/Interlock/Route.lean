import Mathlib.Data.List.Chain
import Mathlib.Data.List.Nodup
import ReqConflict.Interlock.Graph

/-!
# Routes through an interlock graph

A route is a simple path that starts at one of several choices and keeps off
certain nodes.  Routes to one node are ordered by the place where they part:
the one that takes the earlier successor there comes first.  A depth-first
walk reaches every node along the first route to it, and this file proves the
two facts about first routes that correspond to the two moves of such a walk:
stepping down to a node, and going on with the next choice after everything
that the previous one leads to has been visited.
-/

namespace ReqConflict.InterlockGraph

variable {graph : InterlockGraph} {off choices path : List Nat} {node target : Nat}

def Edge (graph : InterlockGraph) (source target : Nat) : Prop :=
  target ∈ graph.successors source

theorem hasEdge_iff {source : Nat} :
    graph.hasEdge source target = true ↔ graph.Edge source target :=
  List.contains_iff_mem

/-- A simple path that starts at one of the choices and keeps off some nodes.
The empty path is a route that has not started. -/
structure IsRoute (graph : InterlockGraph) (off choices path : List Nat) : Prop where
  starts : ∀ node ∈ path.head?, node ∈ choices
  steps : path.IsChain graph.Edge
  distinct : path.Nodup
  avoids : ∀ node ∈ path, node ∉ off

theorem isRoute_nil : graph.IsRoute off choices [] := by
  constructor <;> simp

theorem isRoute_cons_iff :
    graph.IsRoute off choices (node :: path) ↔
      node ∈ choices ∧ node ∉ off ∧
        graph.IsRoute (node :: off) (graph.successors node) path := by
  constructor
  · intro hroute
    have hdistinct := List.nodup_cons.mp hroute.distinct
    have hsteps := List.isChain_cons.mp hroute.steps
    refine ⟨hroute.starts node rfl, hroute.avoids node List.mem_cons_self, ?_⟩
    constructor
    · exact hsteps.1
    · exact hsteps.2
    · exact hdistinct.2
    · intro n hn hmem
      rcases List.mem_cons.mp hmem with rfl | hoff
      · exact hdistinct.1 hn
      · exact hroute.avoids n (List.mem_cons_of_mem node hn) hoff
  · rintro ⟨hchoice, hoff, hroute⟩
    constructor
    · simpa using hchoice
    · exact List.isChain_cons.mpr ⟨hroute.starts, hroute.steps⟩
    · refine List.nodup_cons.mpr ⟨fun hmem => ?_, hroute.distinct⟩
      exact hroute.avoids node hmem List.mem_cons_self
    · intro n hn
      rcases List.mem_cons.mp hn with rfl | hn
      · exact hoff
      · exact fun hmem => hroute.avoids n hn (List.mem_cons_of_mem node hmem)

theorem IsRoute.mono {off' choices' : List Nat}
    (hroute : graph.IsRoute off choices path)
    (hchoices : ∀ n ∈ choices, n ∈ choices') (hoff : ∀ n ∈ off', n ∈ off) :
    graph.IsRoute off' choices' path where
  starts := fun n hn => hchoices n (hroute.starts n hn)
  steps := hroute.steps
  distinct := hroute.distinct
  avoids := fun n hn hmem => hroute.avoids n hn (hoff n hmem)

theorem IsRoute.of_append {rest : List Nat}
    (hroute : graph.IsRoute off choices (path ++ rest)) :
    graph.IsRoute off choices path where
  starts := by
    intro n hn
    apply hroute.starts n
    cases path with
    | nil => simp at hn
    | cons first path => simpa using hn
  steps := hroute.steps.left_of_append
  distinct := hroute.distinct.of_append_left
  avoids := fun n hn => hroute.avoids n (List.mem_append_left rest hn)

/-! ## Reaching a node -/

/-- Some route leads to a node. -/
def Reaches (graph : InterlockGraph) (off choices : List Nat) (target : Nat) : Prop :=
  ∃ path, graph.IsRoute off choices path ∧ path.getLast? = some target

theorem Reaches.mono {off' choices' : List Nat}
    (hreaches : graph.Reaches off choices target)
    (hchoices : ∀ n ∈ choices, n ∈ choices') (hoff : ∀ n ∈ off', n ∈ off) :
    graph.Reaches off' choices' target := by
  obtain ⟨path, hroute, hlast⟩ := hreaches
  exact ⟨path, hroute.mono hchoices hoff, hlast⟩

theorem Reaches.not_mem (hreaches : graph.Reaches off choices target) : target ∉ off := by
  obtain ⟨path, hroute, hlast⟩ := hreaches
  exact hroute.avoids target (List.mem_of_getLast? hlast)

theorem not_reaches_nil : ¬ graph.Reaches off [] target := by
  rintro ⟨path, hroute, hlast⟩
  cases path with
  | nil => simp at hlast
  | cons first path => simpa using hroute.starts first rfl

theorem reaches_singleton_iff :
    graph.Reaches off [node] target ↔
      node ∉ off ∧
        (target = node ∨ graph.Reaches (node :: off) (graph.successors node) target) := by
  constructor
  · rintro ⟨path, hroute, hlast⟩
    cases path with
    | nil => simp at hlast
    | cons first path =>
        obtain ⟨hchoice, hoff, hroute⟩ := isRoute_cons_iff.mp hroute
        have hfirst : first = node := List.mem_singleton.mp hchoice
        subst first
        refine ⟨hoff, ?_⟩
        cases path with
        | nil => exact Or.inl (by simpa using hlast.symm)
        | cons next path => exact Or.inr ⟨next :: path, hroute, by simpa using hlast⟩
  · rintro ⟨hoff, rfl | ⟨path, hroute, hlast⟩⟩
    · exact ⟨[target],
        isRoute_cons_iff.mpr ⟨List.mem_singleton_self target, hoff, isRoute_nil⟩, rfl⟩
    · refine ⟨node :: path,
        isRoute_cons_iff.mpr ⟨List.mem_singleton_self node, hoff, hroute⟩, ?_⟩
      rw [List.getLast?_cons, hlast]
      rfl

/-- An edge leads on from a node that is reached.  Where the route has already
passed the end of the edge, it is cut there. -/
theorem Reaches.step {next : Nat}
    (hreaches : graph.Reaches off choices target) (hedge : graph.Edge target next)
    (hnext : next ∉ off) : graph.Reaches off choices next := by
  obtain ⟨path, hroute, hlast⟩ := hreaches
  by_cases hmem : next ∈ path
  · obtain ⟨before, after, rfl⟩ := List.append_of_mem hmem
    have hcut : before ++ next :: after = (before ++ [next]) ++ after := by simp
    rw [hcut] at hroute
    exact ⟨before ++ [next], hroute.of_append, by simp⟩
  · have hne : path ≠ [] := by
      rintro rfl
      simp at hlast
    refine ⟨path ++ [next], ?_, by simp⟩
    constructor
    · intro n hn
      apply hroute.starts n
      rwa [List.head?_append_of_ne_nil path hne] at hn
    · refine List.isChain_append.mpr ⟨hroute.steps, List.isChain_singleton next, ?_⟩
      intro n hn m hm
      have hn : target = n := by simpa [hlast] using hn
      have hm : next = m := by simpa using hm
      rw [← hn, ← hm]
      exact hedge
    · exact List.nodup_append.mpr
        ⟨hroute.distinct, List.nodup_singleton next, by
          intro n hn m hm heq
          rw [List.mem_singleton.mp hm] at heq
          exact hmem (heq ▸ hn)⟩
    · intro n hn
      rcases List.mem_append.mp hn with hn | hn
      · exact hroute.avoids n hn
      · rw [List.mem_singleton.mp hn]
        exact hnext

theorem Reaches.along {n : Nat}
    (hreaches : graph.Reaches off choices target)
    (hsteps : (target :: path).IsChain graph.Edge) (hoff : ∀ n ∈ path, n ∉ off)
    (hn : n ∈ target :: path) : graph.Reaches off choices n := by
  induction path generalizing target with
  | nil =>
      rw [List.mem_singleton.mp hn]
      exact hreaches
  | cons next path ih =>
      rcases List.mem_cons.mp hn with rfl | hn
      · exact hreaches
      · obtain ⟨hedge, hsteps⟩ := List.isChain_cons_cons.mp hsteps
        have hnext : graph.Reaches off choices next :=
          hreaches.step hedge (hoff next List.mem_cons_self)
        exact ih hnext hsteps (fun m hm => hoff m (List.mem_cons_of_mem next hm)) hn

/-- If a route passes a node that is reached from elsewhere, then its last node
is reached from there too. -/
theorem IsRoute.reaches_last {elsewhere : List Nat}
    (hroute : graph.IsRoute off choices path) (hlast : path.getLast? = some target)
    (hmem : node ∈ path) (hreaches : graph.Reaches off elsewhere node) :
    graph.Reaches off elsewhere target := by
  obtain ⟨before, after, rfl⟩ := List.append_of_mem hmem
  have hsteps : (node :: after).IsChain graph.Edge := hroute.steps.right_of_append
  apply hreaches.along hsteps
  · intro n hn
    exact hroute.avoids n (List.mem_append_right before (List.mem_cons_of_mem node hn))
  · rw [List.getLast?_append_of_ne_nil before (List.cons_ne_nil node after)] at hlast
    exact List.mem_of_getLast? hlast

/-! ## First routes -/

/-- The first path takes an earlier choice where the two part. -/
def Precedes (graph : InterlockGraph) : List Nat → List Nat → List Nat → Prop
  | choices, node :: path, other :: rest =>
      choices.idxOf node < choices.idxOf other ∨
        (node = other ∧ graph.Precedes (graph.successors node) path rest)
  | _, _, _ => False

theorem precedes_same_iff {rest : List Nat} :
    graph.Precedes choices (node :: path) (node :: rest) ↔
      graph.Precedes (graph.successors node) path rest := by
  simp [Precedes]

theorem precedes_cons_choice_iff {choice other : Nat} {rest : List Nat}
    (hnode : node ≠ choice) (hother : other ≠ choice) :
    graph.Precedes (choice :: choices) (node :: path) (other :: rest) ↔
      graph.Precedes choices (node :: path) (other :: rest) := by
  simp [Precedes, List.idxOf_cons_ne choices hnode.symm, List.idxOf_cons_ne choices hother.symm]

/-- A route that precedes every other route to its last node. -/
def IsFirst (graph : InterlockGraph) (off choices path : List Nat) : Prop :=
  graph.IsRoute off choices path ∧
    ∀ other, graph.IsRoute off choices other → other.getLast? = path.getLast? →
      other = path ∨ graph.Precedes choices path other

theorem isFirst_nil : graph.IsFirst off choices [] := by
  refine ⟨isRoute_nil, fun other _ hlast => Or.inl ?_⟩
  exact List.getLast?_eq_none_iff.mp hlast

theorem getLast?_cons_eq_iff {rest : List Nat}
    (hpath : node ∉ path) (hrest : node ∉ rest) :
    (node :: rest).getLast? = (node :: path).getLast? ↔ rest.getLast? = path.getLast? := by
  rw [List.getLast?_cons, List.getLast?_cons, Option.some_inj]
  cases hp : path.getLast? with
  | none =>
      cases hr : rest.getLast? with
      | none => simp
      | some last =>
          have hmem : last ∈ rest := List.mem_of_getLast? hr
          simpa using fun heq : last = node => hrest (heq ▸ hmem)
  | some end' =>
      have hmem : end' ∈ path := List.mem_of_getLast? hp
      cases hr : rest.getLast? with
      | none => simpa using fun heq : node = end' => hpath (heq ▸ hmem)
      | some last => simp

/-- Stepping down to a node: behind it the first routes go on with its
successors and keep off it. -/
theorem isFirst_singleton_cons_iff (hoff : node ∉ off) :
    graph.IsFirst off [node] (node :: path) ↔
      graph.IsFirst (node :: off) (graph.successors node) path := by
  have hcons : ∀ rest, graph.IsRoute off [node] (node :: rest) ↔
      graph.IsRoute (node :: off) (graph.successors node) rest := by
    intro rest
    simp [isRoute_cons_iff, hoff]
  have hlast : ∀ {rest}, graph.IsRoute (node :: off) (graph.successors node) path →
      graph.IsRoute (node :: off) (graph.successors node) rest →
        ((node :: rest).getLast? = (node :: path).getLast? ↔
          rest.getLast? = path.getLast?) := by
    intro rest hpath hrest
    apply getLast?_cons_eq_iff
    · exact fun hmem => hpath.avoids node hmem List.mem_cons_self
    · exact fun hmem => hrest.avoids node hmem List.mem_cons_self
  constructor
  · rintro ⟨hroute, hfirst⟩
    have hpath := (hcons path).mp hroute
    refine ⟨hpath, fun rest hrest hsame => ?_⟩
    rcases hfirst (node :: rest) ((hcons rest).mpr hrest)
      ((hlast hpath hrest).mpr hsame) with heq | hprec
    · exact Or.inl (List.cons_inj_right node |>.mp heq)
    · exact Or.inr (precedes_same_iff.mp hprec)
  · rintro ⟨hpath, hfirst⟩
    refine ⟨(hcons path).mpr hpath, fun other hother hsame => ?_⟩
    cases other with
    | nil => simp [List.getLast?_cons] at hsame
    | cons first rest =>
        have hnode : first = node := List.mem_singleton.mp (hother.starts first rfl)
        subst first
        have hrest := (hcons rest).mp hother
        rcases hfirst rest hrest ((hlast hpath hrest).mp hsame) with rfl | hprec
        · exact Or.inl rfl
        · exact Or.inr (precedes_same_iff.mpr hprec)

/-- The nodes that are visited once everything that a choice leads to has been
visited. -/
def Visits (graph : InterlockGraph) (off : List Nat) (choice : Nat) (visited : List Nat) : Prop :=
  ∀ n, n ∈ visited ↔ n ∈ off ∨ graph.Reaches off [choice] n

variable {choice : Nat} {visited : List Nat}

theorem Visits.off_subset (hvisits : graph.Visits off choice visited) :
    ∀ n ∈ off, n ∈ visited :=
  fun n hn => (hvisits n).mpr (Or.inl hn)

theorem Visits.mem_choice (hvisits : graph.Visits off choice visited) : choice ∈ visited := by
  by_cases hoff : choice ∈ off
  · exact hvisits.off_subset choice hoff
  · have hreaches : graph.Reaches off [choice] choice :=
      reaches_singleton_iff.mpr ⟨hoff, Or.inl rfl⟩
    exact (hvisits choice).mpr (Or.inr hreaches)

/-- Of a route, either no node is visited, or its last node is. -/
theorem Visits.route_cases (hvisits : graph.Visits off choice visited)
    (hroute : graph.IsRoute off (choice :: choices) path)
    (hlast : path.getLast? = some target) :
    graph.IsRoute visited choices path ∨ graph.Reaches off [choice] target := by
  by_cases hmeet : ∃ n ∈ path, n ∈ visited
  · obtain ⟨n, hn, hvisited⟩ := hmeet
    have hreaches : graph.Reaches off [choice] n :=
      ((hvisits n).mp hvisited).resolve_left (hroute.avoids n hn)
    exact Or.inr (hroute.reaches_last hlast hn hreaches)
  · have hfresh : ∀ n ∈ path, n ∉ visited := fun n hn hmem => hmeet ⟨n, hn, hmem⟩
    refine Or.inl ⟨?_, hroute.steps, hroute.distinct, hfresh⟩
    intro n hn
    have hne : n ≠ choice := by
      rintro rfl
      exact hfresh n (List.mem_of_mem_head? hn) hvisits.mem_choice
    exact (List.mem_cons.mp (hroute.starts n hn)).resolve_left hne

theorem Visits.reaches_cons_iff (hvisits : graph.Visits off choice visited) :
    target ∈ visited ∨ graph.Reaches visited choices target ↔
      target ∈ off ∨ graph.Reaches off (choice :: choices) target := by
  constructor
  · rintro (hvisited | hreaches)
    · rcases (hvisits target).mp hvisited with hoff | hreaches
      · exact Or.inl hoff
      · exact Or.inr (hreaches.mono (by simp) (fun _ hn => hn))
    · exact Or.inr (hreaches.mono (fun n hn => List.mem_cons_of_mem choice hn)
        hvisits.off_subset)
  · rintro (hoff | ⟨path, hroute, hlast⟩)
    · exact Or.inl (hvisits.off_subset target hoff)
    · rcases hvisits.route_cases hroute hlast with hroute | hreaches
      · exact Or.inr ⟨path, hroute, hlast⟩
      · exact Or.inl ((hvisits target).mpr (Or.inr hreaches))

theorem Visits.start_ne (hvisits : graph.Visits off choice visited)
    (hroute : graph.IsRoute visited choices (node :: path)) : node ≠ choice := by
  rintro rfl
  exact hroute.avoids node List.mem_cons_self hvisits.mem_choice

theorem Visits.isFirst_of_cons (hvisits : graph.Visits off choice visited)
    (hfirst : graph.IsFirst off (choice :: choices) (node :: path))
    (hnode : node ≠ choice) : graph.IsFirst visited choices (node :: path) := by
  obtain ⟨hroute, hbefore⟩ := hfirst
  have hroute' : graph.IsRoute visited choices (node :: path) := by
    rcases hvisits.route_cases hroute List.getLast?_cons with hroute' | hreaches
    · exact hroute'
    · obtain ⟨other, hother, hlast⟩ := hreaches
      have hsame : other.getLast? = (node :: path).getLast? := by
        rw [hlast, List.getLast?_cons]
      have hmono : graph.IsRoute off (choice :: choices) other :=
        hother.mono (by simp) (fun _ hn => hn)
      cases other with
      | nil => simp at hlast
      | cons first rest =>
          have hchoice : first = choice := List.mem_singleton.mp (hother.starts first rfl)
          subst first
          rcases hbefore _ hmono hsame with heq | hprec
          · exact absurd (List.cons.inj heq).1.symm hnode
          · simp [Precedes, hnode] at hprec
  refine ⟨hroute', fun other hother hsame => ?_⟩
  have hmono : graph.IsRoute off (choice :: choices) other :=
    hother.mono (fun n hn => List.mem_cons_of_mem choice hn) hvisits.off_subset
  rcases hbefore other hmono hsame with heq | hprec
  · exact Or.inl heq
  · cases other with
    | nil => simp [Precedes] at hprec
    | cons first rest =>
        have hstart : first ≠ choice := hvisits.start_ne hother
        exact Or.inr ((precedes_cons_choice_iff hnode hstart).mp hprec)

theorem isRoute_cons_choice_iff :
    graph.IsRoute off (choice :: choices) (choice :: path) ↔
      graph.IsRoute off [choice] (choice :: path) := by
  simp [isRoute_cons_iff]

theorem isFirst_singleton_of_cons
    (hfirst : graph.IsFirst off (choice :: choices) (choice :: path)) :
    graph.IsFirst off [choice] (choice :: path) := by
  obtain ⟨hroute, hbefore⟩ := hfirst
  refine ⟨isRoute_cons_choice_iff.mp hroute, fun other hother hsame => ?_⟩
  cases other with
  | nil => simp [List.getLast?_cons] at hsame
  | cons first rest =>
      have hchoice : first = choice := List.mem_singleton.mp (hother.starts first rfl)
      subst first
      rcases hbefore _ (isRoute_cons_choice_iff.mpr hother) hsame with heq | hprec
      · exact Or.inl heq
      · exact Or.inr (precedes_same_iff.mpr (precedes_same_iff.mp hprec))

theorem isFirst_cons_of_singleton (hfirst : graph.IsFirst off [choice] path) :
    graph.IsFirst off (choice :: choices) path := by
  obtain ⟨hroute, hbefore⟩ := hfirst
  refine ⟨hroute.mono (by simp) (fun _ hn => hn), fun other hother hsame => ?_⟩
  cases path with
  | nil => exact Or.inl (List.getLast?_eq_none_iff.mp hsame)
  | cons node path =>
      have hnode : node = choice := List.mem_singleton.mp (hroute.starts node rfl)
      subst node
      cases other with
      | nil => simp [List.getLast?_cons] at hsame
      | cons first rest =>
          by_cases hchoice : first = choice
          · subst first
            rcases hbefore _ (isRoute_cons_choice_iff.mp hother) hsame with heq | hprec
            · exact Or.inl heq
            · exact Or.inr (precedes_same_iff.mpr (precedes_same_iff.mp hprec))
          · refine Or.inr (Or.inl ?_)
            simp [List.idxOf_cons_ne choices (Ne.symm hchoice)]

theorem Visits.isFirst_cons (hvisits : graph.Visits off choice visited)
    (hfirst : graph.IsFirst visited choices path) :
    graph.IsFirst off (choice :: choices) path := by
  obtain ⟨hroute, hbefore⟩ := hfirst
  cases path with
  | nil => exact isFirst_nil
  | cons node path =>
      have hmono : graph.IsRoute off (choice :: choices) (node :: path) :=
        hroute.mono (fun n hn => List.mem_cons_of_mem choice hn) hvisits.off_subset
      refine ⟨hmono, fun other hother hsame => ?_⟩
      have hlast : (node :: path).getLast? = some (path.getLast?.getD node) :=
        List.getLast?_cons
      rcases hvisits.route_cases hother (hsame.trans hlast) with hother' | hreaches
      · rcases hbefore other hother' hsame with heq | hprec
        · exact Or.inl heq
        · cases other with
          | nil => simp [Precedes] at hprec
          | cons first rest =>
              have hnode : node ≠ choice := hvisits.start_ne hroute
              have hstart : first ≠ choice := hvisits.start_ne hother'
              exact Or.inr ((precedes_cons_choice_iff hnode hstart).mpr hprec)
      · have hvisited : path.getLast?.getD node ∈ visited :=
          (hvisits _).mpr (Or.inr hreaches)
        exact absurd hvisited (hroute.avoids _ (List.mem_of_getLast? hlast))

/-- Going on with the next choice: a first route takes the choice before it, or
it keeps off everything that this one leads to. -/
theorem Visits.isFirst_cons_iff (hvisits : graph.Visits off choice visited) :
    graph.IsFirst off (choice :: choices) path ↔
      graph.IsFirst off [choice] path ∨ graph.IsFirst visited choices path := by
  constructor
  · intro hfirst
    cases path with
    | nil => exact Or.inl isFirst_nil
    | cons node path =>
        by_cases hnode : node = choice
        · subst node
          exact Or.inl (isFirst_singleton_of_cons hfirst)
        · exact Or.inr (hvisits.isFirst_of_cons hfirst hnode)
  · rintro (hfirst | hfirst)
    · exact isFirst_cons_of_singleton hfirst
    · exact hvisits.isFirst_cons hfirst

end ReqConflict.InterlockGraph
