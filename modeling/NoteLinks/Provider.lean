import NoteLinks.Percent
import NoteLinks.Provider.Article
import NoteLinks.Provider.MapView

/-!
# Providers

A provider is a site that an annotated link can lead to. Its key names it in the annotation, and
the decoded value says which page of the site is meant. Most providers put the value behind a fixed
address; the encyclopedia and the map have a value syntax of their own, and cross-references to
records are resolved elsewhere.
-/

namespace NoteLinks

/-- How a provider turns a value into an address. -/
inductive Provider.Rule where
  /-- The value follows a fixed address. -/
  | address (base : Text)
  /-- The value names an encyclopedia article. -/
  | article
  /-- The value names a view of a map. -/
  | mapView
  /-- The value refers to a record of a tree. -/
  | crossReference
deriving DecidableEq, Repr

/-- An annotation and what it leads to, for the list of providers. -/
structure Provider.Example where
  annotation : Text
  description : Text
deriving DecidableEq, Repr

/-- A site that links can lead to. -/
structure Provider where
  key : Text
  /-- The title of a link; `$ID` stands for the value and `%s` for a further argument. -/
  title : Text
  rule : Provider.Rule
  cssClass : Text
  examples : List Provider.Example
deriving DecidableEq, Repr

/-- Where a value leads, or only a title if the value is not well formed. -/
structure Provider.Target where
  url? : Option Text
  title : Text
deriving DecidableEq, Repr

namespace Provider

/-! ### Addresses -/
section Address

/-- `title` with `$ID` replaced by a text. -/
def titleFor (title id : Text) : Text := Text.replaceAll "$ID" id title

/-- The page of an article: spaces of its title are written as underscores. -/
def articleTarget (language title value : Text) : Target :=
  match Article.read? language value with
  | none => ⟨none, titleFor (Text.replaceAll "%s" language title) value⟩
  | some a =>
    let shown := titleFor (Text.replaceAll "%s" a.language title) a.title
    if a.title = [] then ⟨none, shown⟩
    else
      ⟨some ("https://" ++ a.language ++ ".wikipedia.org/wiki/" ++
        Percent.encode (Text.replaceAll " " "_" a.title)), shown⟩

/-- The server of the map. -/
def mapSite : Text := "https://www.openstreetmap.org/"

/-- The part of a map's address that states the view. -/
def mapHash (v : MapView) : Text :=
  "#map=" ++ v.zoom ++ "/" ++ v.latitude ++ "/" ++ v.longitude

/-- The page that shows a view of the map. -/
def mapTarget (title value : Text) : Target :=
  match MapView.read? value with
  | none => ⟨none, title⟩
  | some v =>
    match v.focus with
    | .plain => ⟨some (mapSite ++ mapHash v), title⟩
    | .marker =>
      ⟨some (mapSite ++ "?mlat=" ++ v.latitude ++ "&mlon=" ++ v.longitude ++ mapHash v),
        title ++ ": " ++ v.latitude ++ ", " ++ v.longitude⟩
    | .search query =>
      ⟨some (mapSite ++ "search?query=" ++ Percent.encode query ++ mapHash v),
        title ++ ": " ++ query⟩

/-- Where a value leads; `language` is that of articles whose value states none. A cross-reference
has no target of its own. -/
def target (p : Provider) (language value : Text) : Target :=
  match p.rule with
  | .address base =>
    ⟨if Text.isBlankText value then none else some (base ++ value), titleFor p.title value⟩
  | .article => articleTarget language p.title value
  | .mapView => mapTarget p.title value
  | .crossReference => ⟨none, titleFor p.title value⟩

end Address

/-! ### The table of providers -/
section Table

/-- The key of cross-references. -/
def crossReferenceKey : Text := "wt"

/-- Records of the site's own trees. -/
def records : Provider where
  key := crossReferenceKey
  title := "webtrees: $ID"
  rule := .crossReference
  cssClass := "link-wt"
  examples :=
    [⟨"#@wt=i@I1@", "Individual I1 in the current tree"⟩,
      ⟨"#@wt=f@F3@other", "Family F3 in the tree named 'other'"⟩,
      ⟨"#@wt=i@I1@+dia", "Individual I1 plus a link to the interactive tree"⟩,
      ⟨"#@wt=@N4@", "Any record with identifier N4"⟩]

/-- Articles of Wikipedia. -/
def wikipedia : Provider where
  key := "wp"
  title := "Wikipedia (%s): $ID"
  rule := .article
  cssClass := "link-wp"
  examples :=
    [⟨"#@wp=Hamburg", "Article in the configured default language"⟩,
      ⟨"#@wp=de:Hamburg-Eppendorf", "Article in the German Wikipedia"⟩]

/-- Views of OpenStreetMap. -/
def openStreetMap : Provider where
  key := "osm"
  title := "OpenStreetMap"
  rule := .mapView
  cssClass := "link-osm"
  examples :=
    [⟨"#@osm=17/53.619095/10.037395", "Map view at zoom/lat/lon"⟩,
      ⟨"#@osm=17/53.619095/10.037395/!", "Map view with a marker at lat/lon"⟩,
      ⟨"#@osm=15/53.6/10.0/St.+Martinus", "Search near the map view"⟩]

/-- A site whose pages are found by putting the value behind an address. -/
def site (key title base : Text) (ex : Example) : Provider where
  key := key
  title := title
  rule := .address base
  cssClass := "link-" ++ key
  examples := [ex]

/-- All providers, in the order in which they are listed. -/
def table : List Provider :=
  [records,
    wikipedia,
    site "www" "$ID" "https://"
      ⟨"#@www=example.org/history.html", "Any web page, https:// is added"⟩,
    site "ofb" "Online-OFB: $ID" "https://online-ofb.de/famreport.php?ID="
      ⟨"#@ofb=12345%26ofb=hagen", "Person in an online family book"⟩,
    site "gw" "GenWiki: $ID" "https://wiki.genealogy.net/"
      ⟨"#@gw=Eppendorf", "GenWiki article"⟩,
    site "gov" "GOV: $ID" "https://gov.genealogy.net/item/show/"
      ⟨"#@gov=EPPDORJO93PO", "Place in the historic gazetteer"⟩,
    site "gedbas" "GEDBAS: $ID" "https://gedbas.genealogy.net/person/show/"
      ⟨"#@gedbas=1234567890", "Person in GEDBAS"⟩,
    site "ewp" "Westfälische Geschichte: $ID"
      "https://www.lwl.org/westfaelische-geschichte/portal/Internet/finde/langDatensatz.php?urlID="
      ⟨"#@ewp=739", "Entry in the Westphalian history portal"⟩,
    site "fsft" "FamilySearch: $ID" "https://www.familysearch.org/tree/person/details/"
      ⟨"#@fsft=LZ7X-ABC", "Person in the FamilySearch family tree"⟩,
    openStreetMap,
    site "wit" "WikiTree: $ID" "https://www.wikitree.com/wiki/"
      ⟨"#@wit=Schmidt-1234", "Profile on WikiTree"⟩]

def ofKey? (key : Text) : Option Provider := table.find? (·.key == key)

end Table

end Provider

end NoteLinks
