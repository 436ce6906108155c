import NoteLinks.Failure
import NoteLinks.Help.Rule
import NoteLinks.Help.Scope
import NoteLinks.Settings
import NoteLinks.Url

/-!
# The help page for a page

Rules are tried in three tiers: rules for exactly this page, rules for its module, and generic rules
for its scopes. The first tier with a matching rule decides; within it a module's rule for the very
path comes first, then the least order, then the order in which the rules are stored. A rule without
an address never matches.
-/

namespace NoteLinks.Help

/-- The ways in which a rule can match, the strongest first. -/
inductive Tier where
  | exact
  | module
  | generic
deriving DecidableEq, Repr

namespace Tier

/-- All tiers, in the order in which they are tried. -/
def all : List Tier := [exact, module, generic]

def name : Tier → Text
  | exact => "exact"
  | module => "module"
  | generic => "generic"

/-- A rule matches a page in a tier. -/
def holds (t : Tier) (rule : Rule) (route : Route) : Bool :=
  match t with
  | exact => rule.path == route.path && rule.handler == route.handler
  | module => route.isModuleRoute && route.module == some rule.handler
  | generic =>
    rule.category == .generic && normalizeScopes [rule.extras] == normalizeScopes route.scopes

/-- How far a rule is from the page within a tier, before its order counts. -/
def distance (t : Tier) (rule : Rule) (route : Route) : Nat :=
  match t with
  | module => if rule.path = route.path then 0 else 1
  | exact | generic => 0

/-- In a tier, `a` comes before `b` whatever the order of storage. -/
def before (t : Tier) (route : Route) (a b : Rule) : Bool :=
  t.distance a route < t.distance b route ||
    (t.distance a route == t.distance b route && a.order < b.order)

end Tier

/-- The first of the rules that no other rule comes before. -/
def least? (before : Rule → Rule → Bool) : List Rule → Option Rule
  | [] => none
  | r :: rs =>
    match least? before rs with
    | none => some r
    | some s => if before s r then some s else some r

def candidates (t : Tier) (rules : List Rule) (route : Route) : List Rule :=
  rules.filter fun r => !Text.isBlankText r.url && t.holds r route

/-- The rule for a page and the tier in which it matches. -/
def bestMatch (rules : List Rule) (route : Route) : Option (Tier × Rule) :=
  Tier.all.findSome? fun t =>
    (least? (t.before route) (candidates t rules route)).map (t, ·)

/-- The address of a help page: the default for a blank one, an `http` address as it is, and any
other below the base. -/
def resolveUrl (settings : HelpSettings) (url : Text) : Text :=
  let url := Text.trim url
  if url = [] then settings.defaultUrl
  else if Url.isHttp url then url
  else Url.under settings.wikiBase url

/-- A rule that was found for a page. -/
structure Found where
  tier : Tier
  rule : Rule
  url : Text
deriving DecidableEq

/-- The rule for a page, where the rules can be had. -/
def find (settings : HelpSettings) (rules : Except Failure (List Rule)) (route : Route) :
    Except Failure (Option Found) :=
  rules.map fun rules =>
    (bestMatch rules route).map fun (t, r) => ⟨t, r, resolveUrl settings r.url⟩

/-- The help address for a page: the default where no rule matches or the rules cannot be had. -/
def helpUrl (settings : HelpSettings) (rules : Except Failure (List Rule)) (route : Route) : Text :=
  match find settings rules route with
  | .ok (some found) => found.url
  | _ => settings.defaultUrl

end NoteLinks.Help
