import Mathlib.Data.Prod.Lex
import NoteLinks.Help.Match
import NoteLinks.Proofs.Trimming
import NoteLinks.Proofs.Urls

/-!
# The rule for a page

Rules compete for a page.  Those of the first tier in which a rule matches are compared by a key:
how far the rule is from the page, and then its order.  The answer is the first stored of the rules
with the least key (`IsBest`, `bestMatch_eq_some_iff`), and there is none exactly if no rule matches
in any tier (`bestMatch_eq_none_iff`).

An idle rule matches in no tier before that of the answer, and in its tier only with a larger key;
blank rules are idle, since they match nowhere.  The answer depends on the rules that are not idle
alone (`bestMatch_congr`), wherever idle ones stand among them.
-/

namespace NoteLinks.Help

variable {rules rules' : List Rule} {route : Route} {t : Tier} {r : Rule}

/-! ### The first of the least -/
section Least

variable {K : Type} [LinearOrder K] {key : Rule → K} {before : Rule → Rule → Bool}

/-- The rule has a least key among some rules, and stands before all others with that key. -/
def IsFirstLeast (key : Rule → K) (rules : List Rule) (r : Rule) : Prop :=
  ∃ front back, rules = front ++ r :: back ∧ (∀ x ∈ front, key r < key x) ∧
    ∀ x ∈ back, key r ≤ key x

/-- Some rule is the least as soon as there is one. -/
lemma least?_eq_none_iff : least? before rules = none ↔ rules = [] := by
  cases rules with
  | nil => simp [least?]
  | cons x rules =>
    rw [least?]
    split
    · simp
    · split <;> simp

/-- The first of the least is the first rule if no other is less, and otherwise the first of the
least among the others. -/
lemma isFirstLeast_cons {x : Rule} :
    IsFirstLeast key (x :: rules) r ↔
      (r = x ∧ ∀ y ∈ rules, key x ≤ key y) ∨ (key r < key x ∧ IsFirstLeast key rules r) := by
  constructor
  · rintro ⟨front, back, heq, hfront, hback⟩
    rcases List.cons_eq_append_iff.1 heq with ⟨rfl, heq⟩ | ⟨front, rfl, rfl⟩
    · obtain ⟨rfl, rfl⟩ := List.cons.inj heq
      exact Or.inl ⟨rfl, hback⟩
    · obtain ⟨hx, hfront⟩ := List.forall_mem_cons.1 hfront
      exact Or.inr ⟨hx, front, back, rfl, hfront, hback⟩
  · rintro (⟨rfl, hleast⟩ | ⟨hx, front, back, rfl, hfront, hback⟩)
    · exact ⟨[], rules, rfl, by simp, hleast⟩
    · exact ⟨x :: front, back, rfl, List.forall_mem_cons.2 ⟨hx, hfront⟩, hback⟩

/-- The first of the least is not greater than any other. -/
lemma IsFirstLeast.le (h : IsFirstLeast key rules r) : ∀ y ∈ rules, key r ≤ key y := by
  obtain ⟨front, back, rfl, hfront, hback⟩ := h
  intro y hy
  rcases List.mem_append.1 hy with hy | hy
  · exact (hfront y hy).le
  · rcases List.mem_cons.1 hy with rfl | hy
    · exact le_rfl
    · exact hback y hy

/-- The rule that is found is the first of the least. -/
lemma least?_eq_some_iff (hbefore : ∀ a b, before a b = true ↔ key a < key b) :
    least? before rules = some r ↔ IsFirstLeast key rules r := by
  induction rules generalizing r with
  | nil => simp [least?, IsFirstLeast]
  | cons x rules ih =>
    rw [isFirstLeast_cons, ← ih, least?]
    cases hrest : least? before rules with
    | none =>
      obtain rfl := least?_eq_none_iff.1 hrest
      simp [eq_comm]
    | some s =>
      have hs : ∀ y ∈ rules, key s ≤ key y := (ih.1 hrest).le
      obtain ⟨_, _, hmem, -, -⟩ := ih.1 hrest
      -- the first rule stays unless a later one is less, so of equals the first one is taken
      by_cases hlt : key s < key x
      · have hnot : ¬ ∀ y ∈ rules, key x ≤ key y :=
          fun h => (h s (by simp [hmem])).not_gt hlt
        have hpick : (if before s x = true then some s else some x) = some s :=
          if_pos ((hbefore s x).2 hlt)
        simp only [hpick, hnot, and_false, false_or, Option.some.injEq]
        exact ⟨fun h => ⟨h ▸ hlt, h⟩, And.right⟩
      · have hall : ∀ y ∈ rules, key x ≤ key y := fun y hy => (not_lt.1 hlt).trans (hs y hy)
        have hpick : (if before s x = true then some s else some x) = some x :=
          if_neg (mt (hbefore s x).1 hlt)
        simp only [hpick, Option.some.injEq]
        constructor
        · rintro rfl
          exact Or.inl ⟨rfl, hall⟩
        · rintro (⟨rfl, -⟩ | ⟨hr, rfl⟩)
          · rfl
          · exact absurd hr hlt

end Least

/-! ### Keys -/

namespace Tier

/-- The tiers that are tried before a tier. -/
def earlier (t : Tier) : List Tier := all.takeWhile (· ≠ t)

lemma mem_all (t : Tier) : t ∈ all := by cases t <;> decide

/-- The tiers in front of a tier are the earlier ones. -/
lemma eq_earlier {front later : List Tier} (h : all = front ++ t :: later) :
    front = t.earlier := by
  have hnodup : (front ++ t :: later).Nodup := by
    rw [← h]
    decide
  have hfront : ∀ s ∈ front, decide (s ≠ t) = true := by
    intro s hs
    simpa using (List.nodup_append.1 hnodup).2.2 s hs t List.mem_cons_self
  rw [earlier, h, List.takeWhile_append_of_pos hfront]
  simp

lemma all_eq_append (t : Tier) : ∃ later, all = t.earlier ++ t :: later := by
  obtain ⟨front, later, hall⟩ := List.append_of_mem t.mem_all
  exact ⟨later, eq_earlier hall ▸ hall⟩

/-- A rule that has an address matches the page in the tier. -/
def Matches (t : Tier) (route : Route) (r : Rule) : Prop :=
  Text.trim r.url ≠ [] ∧ t.holds r route = true

instance (t : Tier) (route : Route) : DecidablePred (t.Matches route) :=
  fun r => inferInstanceAs (Decidable (Text.trim r.url ≠ [] ∧ t.holds r route = true))

/-- What the rules of a tier are compared by.  Of the rules for a module those for the very path
come first; then the order counts. -/
def key (t : Tier) (route : Route) (r : Rule) : ℕ ×ₗ ℤ :=
  toLex (if t ≠ module ∨ r.path = route.path then 0 else 1, r.order.toInt)

/-- Rules are compared by their keys. -/
lemma before_eq_true_iff (t : Tier) (route : Route) (a b : Rule) :
    t.before route a b = true ↔ t.key route a < t.key route b := by
  have hdistance : ∀ x : Rule,
      t.distance x route = if t ≠ module ∨ x.path = route.path then 0 else 1 := by
    intro x
    cases t <;> simp [distance]
  rw [before, key, key, Prod.Lex.toLex_lt_toLex, ← hdistance, ← hdistance]
  simp [Int64.lt_iff_toInt_lt]

lemma candidates_eq (rules : List Rule) (route : Route) :
    candidates t rules route = rules.filter fun r => t.Matches route r := by
  refine List.filter_congr fun r _ => ?_
  simp [Matches, Text.trim_eq_nil_iff, Bool.decide_and]

end Tier

/-! ### The answer -/

/-- The rule is the answer for a page: it is the first of those with the least key in the first tier
in which any rule matches. -/
structure IsBest (rules : List Rule) (route : Route) (t : Tier) (r : Rule) : Prop where
  earlier : ∀ s ∈ t.earlier, ∀ x ∈ rules, ¬ s.Matches route x
  holds : t.Matches route r
  /-- Of the matching rules, those stored before it have larger keys, and those stored behind it
  have no lesser ones. -/
  least : ∃ front back, rules = front ++ r :: back ∧
    (∀ x ∈ front, t.Matches route x → t.key route r < t.key route x) ∧
    ∀ x ∈ back, t.Matches route x → t.key route r ≤ t.key route x

/-- The first tier with candidates decides. -/
lemma bestMatch_eq_some_iff_candidates :
    bestMatch rules route = some (t, r) ↔
      (∀ s ∈ t.earlier, candidates s rules route = []) ∧
        least? (t.before route) (candidates t rules route) = some r := by
  rw [bestMatch, List.findSome?_eq_some_iff]
  simp only [Option.map_eq_some_iff, Option.map_eq_none_iff, least?_eq_none_iff, Prod.mk.injEq]
  constructor
  · rintro ⟨front, s, later, hall, ⟨x, hx, rfl, rfl⟩, hfront⟩
    exact ⟨Tier.eq_earlier hall ▸ hfront, hx⟩
  · rintro ⟨hearlier, hleast⟩
    obtain ⟨later, hall⟩ := t.all_eq_append
    exact ⟨t.earlier, t, later, hall, ⟨r, hleast, rfl, rfl⟩, hearlier⟩

lemma candidates_eq_nil_iff :
    candidates t rules route = [] ↔ ∀ x ∈ rules, ¬ t.Matches route x := by
  simp [Tier.candidates_eq, List.filter_eq_nil_iff]

/-- The first of the least among the matching rules is seen in the list of all rules. -/
lemma isFirstLeast_filter {K : Type} [LinearOrder K] {key : Rule → K} {p : Rule → Bool} :
    IsFirstLeast key (rules.filter p) r ↔
      p r = true ∧ ∃ front back, rules = front ++ r :: back ∧
        (∀ x ∈ front, p x = true → key r < key x) ∧ ∀ x ∈ back, p x = true → key r ≤ key x := by
  constructor
  · rintro ⟨front, back, hfilter, hfront, hback⟩
    obtain ⟨l₁, l₂, rfl, rfl, hl₂⟩ := List.filter_eq_append_iff.1 hfilter
    obtain ⟨m₁, m₂, rfl, hm₁, hr, rfl⟩ := List.filter_eq_cons_iff.1 hl₂
    refine ⟨hr, l₁ ++ m₁, m₂, by simp, ?_, ?_⟩
    · intro x hx hp
      rcases List.mem_append.1 hx with hx | hx
      · exact hfront x (List.mem_filter.2 ⟨hx, hp⟩)
      · exact absurd hp (hm₁ x hx)
    · exact fun x hx hp => hback x (List.mem_filter.2 ⟨hx, hp⟩)
  · rintro ⟨hr, front, back, rfl, hfront, hback⟩
    refine ⟨front.filter p, back.filter p, ?_, ?_, ?_⟩
    · rw [List.filter_append, List.filter_cons_of_pos hr]
    · exact fun x hx => hfront x (List.mem_filter.1 hx).1 (List.mem_filter.1 hx).2
    · exact fun x hx => hback x (List.mem_filter.1 hx).1 (List.mem_filter.1 hx).2

/-- The answer is the first of the least among the rules that match in its tier. -/
lemma isBest_iff :
    IsBest rules route t r ↔
      (∀ s ∈ t.earlier, ∀ x ∈ rules, ¬ s.Matches route x) ∧
        IsFirstLeast (t.key route) (rules.filter fun x => t.Matches route x) r := by
  rw [isFirstLeast_filter]
  simp only [decide_eq_true_eq]
  exact ⟨fun h => ⟨h.earlier, h.holds, h.least⟩, fun h => ⟨h.1, h.2.1, h.2.2⟩⟩

/-- The rule that is found for a page is the answer. -/
lemma bestMatch_eq_some_iff : bestMatch rules route = some (t, r) ↔ IsBest rules route t r := by
  rw [bestMatch_eq_some_iff_candidates, isBest_iff, Tier.candidates_eq,
    least?_eq_some_iff (t.before_eq_true_iff route)]
  simp only [candidates_eq_nil_iff]

lemma bestMatch_eq_none_iff :
    bestMatch rules route = none ↔ ∀ t : Tier, ∀ x ∈ rules, ¬ t.Matches route x := by
  simp only [bestMatch, List.findSome?_eq_none_iff, Option.map_eq_none_iff, least?_eq_none_iff,
    candidates_eq_nil_iff]
  exact ⟨fun h t => h t t.mem_all, fun h t _ => h t⟩

/-! ### Rules that do not matter -/

/-- The rule cannot take the place of an answer: it matches in no tier before that of the answer,
and in its tier only with a larger key.  Where there is no answer it matches in no tier.  A blank
rule never matches, so it is idle whatever the answer is. -/
def IsIdle (route : Route) : Option (Tier × Rule) → Rule → Prop
  | none, x => ∀ s ∈ Tier.all, ¬ s.Matches route x
  | some (t, r), x =>
    (∀ s ∈ t.earlier, ¬ s.Matches route x) ∧
      (t.Matches route x → t.key route r < t.key route x)

instance (route : Route) : (answer : Option (Tier × Rule)) → DecidablePred (IsIdle route answer)
  | none => fun x => inferInstanceAs (Decidable (∀ s ∈ Tier.all, ¬ s.Matches route x))
  | some (t, r) => fun x =>
    inferInstanceAs (Decidable ((∀ s ∈ t.earlier, ¬ s.Matches route x) ∧
      (t.Matches route x → t.key route r < t.key route x)))

/-- The rules that could take the place of an answer. -/
def contenders (route : Route) (answer : Option (Tier × Rule)) (rules : List Rule) : List Rule :=
  rules.filter fun x => ¬ IsIdle route answer x

/-- Rules with larger keys do not matter for the first of the least. -/
lemma isFirstLeast_filter_of_lt {K : Type} [LinearOrder K] {key : Rule → K} {p : Rule → Bool}
    (hp : ∀ x ∈ rules, p x = false → key r < key x) :
    IsFirstLeast key (rules.filter p) r ↔ IsFirstLeast key rules r := by
  rw [isFirstLeast_filter]
  constructor
  · rintro ⟨-, front, back, rfl, hfront, hback⟩
    refine ⟨front, back, rfl, fun x hx => ?_, fun x hx => ?_⟩
    · cases hpx : p x with
      | false => exact hp x (List.mem_append_left _ hx) hpx
      | true => exact hfront x hx hpx
    · cases hpx : p x with
      | false => exact (hp x (List.mem_append_right _ (List.mem_cons_of_mem r hx)) hpx).le
      | true => exact hback x hx hpx
  · rintro ⟨front, back, rfl, hfront, hback⟩
    refine ⟨?_, front, back, rfl, fun x hx _ => hfront x hx, fun x hx _ => hback x hx⟩
    by_contra hr
    exact lt_irrefl _ (hp r (by simp) (by simpa using hr))

/-- Whether a rule is the answer is seen from the rules that are not idle. -/
lemma isBest_contenders_iff :
    IsBest (contenders route (some (t, r)) rules) route t r ↔ IsBest rules route t r := by
  have hearlier : (∀ s ∈ t.earlier, ∀ x ∈ contenders route (some (t, r)) rules,
      ¬ s.Matches route x) ↔ ∀ s ∈ t.earlier, ∀ x ∈ rules, ¬ s.Matches route x := by
    refine forall₂_congr fun s hs => ⟨fun h x hx hmatch => ?_, fun h x hx => ?_⟩
    · have hidle : ¬ IsIdle route (some (t, r)) x := fun hidle => hidle.1 s hs hmatch
      exact h x (List.mem_filter.2 ⟨hx, by simpa using hidle⟩) hmatch
    · exact h x (List.mem_filter.1 hx).1
  have hlarger : ∀ x ∈ rules.filter (fun x => t.Matches route x),
      decide (¬ IsIdle route (some (t, r)) x) = false → t.key route r < t.key route x := by
    intro x hx hidle
    have hmatch : t.Matches route x := by simpa using (List.mem_filter.1 hx).2
    have hidle' : IsIdle route (some (t, r)) x := by simpa using hidle
    exact hidle'.2 hmatch
  rw [isBest_iff, isBest_iff, hearlier, contenders, List.filter_comm,
    isFirstLeast_filter_of_lt hlarger]

/-- No rule matches exactly if all rules are idle where there is no answer. -/
lemma contenders_none_eq_nil_iff :
    contenders route none rules = [] ↔ bestMatch rules route = none := by
  rw [contenders, List.filter_eq_nil_iff, bestMatch_eq_none_iff]
  constructor
  · intro h t x hx
    have hidle : IsIdle route none x := by simpa using h x hx
    exact hidle t t.mem_all
  · intro h x hx
    have hidle : IsIdle route none x := fun t _ => h t x hx
    simpa using hidle

/-- The answer depends on the rules that are not idle alone. -/
lemma bestMatch_congr
    (h : contenders route (bestMatch rules route) rules' =
      contenders route (bestMatch rules route) rules) :
    bestMatch rules' route = bestMatch rules route := by
  cases hanswer : bestMatch rules route with
  | none =>
    rw [hanswer, contenders_none_eq_nil_iff.2 hanswer] at h
    exact contenders_none_eq_nil_iff.1 h
  | some answer =>
    obtain ⟨t, r⟩ := answer
    rw [hanswer] at h
    rw [bestMatch_eq_some_iff, ← isBest_contenders_iff, h, isBest_contenders_iff,
      ← bestMatch_eq_some_iff]
    exact hanswer

/-! ### Addresses -/

/-- A stored address and the address of the help page that it means: that of a web server stays as
it is, and any other lies below the base. -/
inductive Means (wikiBase stored : Text) : Text → Prop
  | server (h : ∃ scheme rest, Text.trim stored = scheme ++ rest ∧
      Text.lower scheme ∈ Url.schemes) : Means wikiBase stored (Text.trim stored)
  | page {url : Text} (h : ∀ scheme rest, Text.trim stored = scheme ++ rest →
      Text.lower scheme ∉ Url.schemes) (hurl : Url.IsUnder wikiBase (Text.trim stored) url) :
      Means wikiBase stored url

/-- A stored address that is not blank leads where it says. -/
lemma means_resolveUrl (settings : HelpSettings) {stored : Text} (h : Text.trim stored ≠ []) :
    Means settings.wikiBase stored (resolveUrl settings stored) := by
  simp only [resolveUrl, if_neg h]
  by_cases hhttp : Url.isHttp (Text.trim stored) = true
  · rw [if_pos hhttp]
    exact .server (Url.isHttp_iff.1 hhttp)
  · rw [if_neg hhttp]
    refine .page (fun scheme rest heq hscheme => hhttp ?_) (Url.isUnder_iff.2 rfl)
    exact Url.isHttp_iff.2 ⟨scheme, rest, heq, hscheme⟩

/-- The help address for a page is that of the answer, or the default where there is none. -/
lemma helpUrl_ok (settings : HelpSettings) (rules : List Rule) (route : Route) :
    helpUrl settings (.ok rules) route =
      match bestMatch rules route with
      | some (_, r) => resolveUrl settings r.url
      | none => settings.defaultUrl := by
  cases hanswer : bestMatch rules route <;> simp [helpUrl, find, Except.map, hanswer]

/-- The help page for a page is that of the first stored of the rules with the least key in the
first tier in which any rule matches, and the default page where no rule matches or the rules cannot
be had.  Rules that are blank, or match in later tiers only, or have larger keys in the tier of the
answer can be added, removed and moved about without changing it. -/
theorem helpUrl_of_isBest (settings : HelpSettings) (rules : List Rule) (route : Route) :
    (bestMatch rules route = none ↔ ∀ t : Tier, ∀ x ∈ rules, ¬ t.Matches route x) ∧
    (∀ t r, bestMatch rules route = some (t, r) ↔ IsBest rules route t r) ∧
    (bestMatch rules route = none → helpUrl settings (.ok rules) route = settings.defaultUrl) ∧
    (∀ t r, bestMatch rules route = some (t, r) →
      helpUrl settings (.ok rules) route = resolveUrl settings r.url ∧
        Means settings.wikiBase r.url (helpUrl settings (.ok rules) route)) ∧
    (∀ fault, helpUrl settings (.error fault) route = settings.defaultUrl) ∧
    (∀ rules', contenders route (bestMatch rules route) rules' =
        contenders route (bestMatch rules route) rules →
      bestMatch rules' route = bestMatch rules route ∧
        helpUrl settings (.ok rules') route = helpUrl settings (.ok rules) route) := by
  refine ⟨bestMatch_eq_none_iff, fun t r => bestMatch_eq_some_iff, fun hnone => ?_,
    fun t r hsome => ?_, fun fault => rfl, fun rules' h => ?_⟩
  · rw [helpUrl_ok, hnone]
  · have hurl : helpUrl settings (.ok rules) route = resolveUrl settings r.url := by
      rw [helpUrl_ok, hsome]
    refine ⟨hurl, hurl ▸ means_resolveUrl settings ?_⟩
    exact (bestMatch_eq_some_iff.1 hsome).holds.1
  · have hanswer := bestMatch_congr h
    exact ⟨hanswer, by rw [helpUrl_ok, helpUrl_ok, hanswer]⟩

end NoteLinks.Help
