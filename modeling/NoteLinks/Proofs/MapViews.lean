import Mathlib.Data.List.Basic
import Mathlib.Tactic.Common
import NoteLinks.Proofs.Cutting
import NoteLinks.Proofs.Percent
import NoteLinks.Proofs.Trimming
import NoteLinks.Provider

/-!
# The addresses of map views

A value names a view of the map exactly if it consists, up to blanks around it, of a zoom, a latitude
and a longitude with slashes between them, and possibly of a slash and a text of one line
(`MapView.IsValue`, `MapView.read?_eq_some_iff`).  The address of the view repeats the three numbers
as they are written, and what the text asks for stands before them: nothing, a marker at the same
place, or a percent-coded search (`IsMapUrl`).

The digits of the numbers are those of any script.  So the address is one that the map service reads,
in ASCII digits and without a character that would have to be escaped, exactly if the digits of the
value are ASCII digits (`HasAsciiNumbers`).
-/

namespace NoteLinks

variable {c : Char} {t value url : Text}

/-! ## Numbers -/
namespace MapView

variable {digit digit' : Char → Bool} {limit : Nat} {zoom latitude longitude tail : Text}

/-- From one to `limit` digits of a class. -/
structure IsShort (digit : Char → Bool) (limit : Nat) (t : Text) : Prop where
  ne_nil : t ≠ []
  length_le : t.length ≤ limit
  digits : ∀ c ∈ t, digit c = true

/-- Nothing, or a point and one or more digits of a class. -/
def IsFraction (digit : Char → Bool) (t : Text) : Prop :=
  t = [] ∨ ∃ digits, digits ≠ [] ∧ (∀ c ∈ digits, digit c = true) ∧ t = '.' :: digits

/-- Possibly a minus sign, up to `limit` digits of a class, and possibly a fraction. -/
def IsDecimal (digit : Char → Bool) (limit : Nat) (t : Text) : Prop :=
  ∃ sign whole fraction, (sign = [] ∨ sign = ['-']) ∧ IsShort digit limit whole ∧
    IsFraction digit fraction ∧ t = sign ++ whole ++ fraction

/-- The digits of a short number may be taken from another class that they belong to. -/
lemma IsShort.congr (h : IsShort digit limit t) (hdigit : ∀ c ∈ t, digit c = true → digit' c = true) :
    IsShort digit' limit t :=
  ⟨h.ne_nil, h.length_le, fun c hc => hdigit c hc (h.digits c hc)⟩

/-- The digits of a decimal may be taken from another class that they belong to. -/
lemma IsDecimal.congr (h : IsDecimal digit limit t)
    (hdigit : ∀ c ∈ t, digit c = true → digit' c = true) : IsDecimal digit' limit t := by
  obtain ⟨sign, whole, fraction, hsign, hwhole, hfraction, rfl⟩ := h
  refine ⟨sign, whole, fraction, hsign, hwhole.congr fun c hc => hdigit c (by simp [hc]), ?_, rfl⟩
  rcases hfraction with rfl | ⟨digits, hne, hdigits, rfl⟩
  · exact Or.inl rfl
  · exact Or.inr ⟨digits, hne, fun c hc => hdigit c (by simp [hc]) (hdigits c hc), rfl⟩

/-- A decimal holds digits, a minus sign and a point only. -/
lemma IsDecimal.mem (h : IsDecimal digit limit t) (hc : c ∈ t) :
    digit c = true ∨ c = '-' ∨ c = '.' := by
  obtain ⟨sign, whole, fraction, hsign, hwhole, hfraction, rfl⟩ := h
  rw [List.mem_append, List.mem_append] at hc
  rcases hc with (hc | hc) | hc
  · rcases hsign with rfl | rfl
    · cases hc
    · exact Or.inr (Or.inl (List.mem_singleton.1 hc))
  · exact Or.inl (hwhole.digits c hc)
  · rcases hfraction with rfl | ⟨digits, -, hdigits, rfl⟩
    · cases hc
    · rcases List.mem_cons.1 hc with rfl | hc
      · exact Or.inr (Or.inr rfl)
      · exact Or.inl (hdigits c hc)

/-- The check for a short number decides what it is. -/
lemma isShortNumber_iff : isShortNumber limit t = true ↔ IsShort Text.isDigit limit t := by
  rw [isShortNumber, Bool.and_eq_true, Bool.and_eq_true, decide_eq_true_eq, decide_eq_true_eq,
    List.all_eq_true, Nat.one_le_iff_ne_zero, Ne, List.length_eq_zero_iff]
  constructor
  · rintro ⟨⟨hne, hle⟩, hdigits⟩
    exact ⟨hne, hle, hdigits⟩
  · intro h
    exact ⟨⟨h.ne_nil, h.length_le⟩, h.digits⟩

/-- A magnitude is a short number with a fraction behind it. -/
lemma isMagnitude_iff :
    isMagnitude limit t = true ↔ ∃ whole fraction, IsShort Text.isDigit limit whole ∧
      IsFraction Text.isDigit fraction ∧ t = whole ++ fraction := by
  constructor
  · intro h
    rw [isMagnitude] at h
    split at h
    · exact ⟨t, [], isShortNumber_iff.1 h, Or.inl rfl, (List.append_nil t).symm⟩
    · rename_i whole fraction hcut
      obtain ⟨-, rfl⟩ := Text.cutWhere?_char_eq_some_iff.1 hcut
      rw [Bool.and_eq_true, Bool.and_eq_true, bne_iff_ne, List.all_eq_true] at h
      obtain ⟨⟨hwhole, hne⟩, hdigits⟩ := h
      exact ⟨whole, '.' :: fraction, isShortNumber_iff.1 hwhole,
        Or.inr ⟨fraction, hne, hdigits, rfl⟩, rfl⟩
  · rintro ⟨whole, fraction, hwhole, hfraction, rfl⟩
    -- no digit is a point, so the reader cuts the number at the one that was written
    have hpoint : '.' ∉ whole := fun hmem => absurd (hwhole.digits '.' hmem) (by decide)
    rcases hfraction with rfl | ⟨digits, hne, hdigits, rfl⟩
    · rw [List.append_nil, isMagnitude, Text.cutWhere?_char_eq_none_iff.2 hpoint]
      exact isShortNumber_iff.2 hwhole
    · have hcut : Text.cutWhere? (· == '.') (whole ++ '.' :: digits) = some (whole, digits) :=
        Text.cutWhere?_char_eq_some_iff.2 ⟨hpoint, rfl⟩
      have hall : digits.all Text.isDigit = true := List.all_eq_true.2 hdigits
      have hsome : (digits != []) = true := bne_iff_ne.2 hne
      rw [isMagnitude, hcut]
      simp only [isShortNumber_iff.2 hwhole, hsome, hall, Bool.and_self]

/-- The check for a coordinate decides whether it is a decimal. -/
lemma isCoordinate_iff : isCoordinate limit t = true ↔ IsDecimal Text.isDigit limit t := by
  -- a number that begins with a minus sign begins with no digit, which keeps the two cases apart
  have hminus : Text.isDigit '-' = false := by decide
  constructor
  · intro h
    unfold isCoordinate at h
    split at h
    · rename_i t
      obtain ⟨whole, fraction, hwhole, hfraction, rfl⟩ := isMagnitude_iff.1 h
      exact ⟨['-'], whole, fraction, Or.inr rfl, hwhole, hfraction, rfl⟩
    · obtain ⟨whole, fraction, hwhole, hfraction, rfl⟩ := isMagnitude_iff.1 h
      exact ⟨[], whole, fraction, Or.inl rfl, hwhole, hfraction, rfl⟩
  · rintro ⟨sign, whole, fraction, hsign, hwhole, hfraction, rfl⟩
    have hmagnitude : isMagnitude limit (whole ++ fraction) = true :=
      isMagnitude_iff.2 ⟨whole, fraction, hwhole, hfraction, rfl⟩
    rcases hsign with rfl | rfl
    · obtain ⟨c, whole, rfl⟩ := List.exists_cons_of_ne_nil hwhole.ne_nil
      have hdigit := hwhole.digits c List.mem_cons_self
      unfold isCoordinate
      split
      · rename_i heq
        obtain ⟨rfl, -⟩ := List.cons.inj heq
        rw [hminus] at hdigit
        cases hdigit
      · exact hmagnitude
    · exact hmagnitude

/-! ## Values -/

/-- A value names a view by three numbers with slashes between them, behind which nothing stands or
a slash and a text of one line; blanks around the value do not count. -/
structure IsValue (value zoom latitude longitude tail : Text) : Prop where
  isShort_zoom : IsShort Text.isDigit 2 zoom
  isDecimal_latitude : IsDecimal Text.isDigit 2 latitude
  isDecimal_longitude : IsDecimal Text.isDigit 3 longitude
  line_tail : tail = [] ∨ ∃ extra, '\n' ∉ extra ∧ tail = '/' :: extra
  trim_eq : Text.trim value = zoom ++ '/' :: (latitude ++ '/' :: (longitude ++ tail))

/-- A digit is no slash and no blank, and neither is a minus sign or a point. -/
lemma plain_of_isDigit (h : Text.isDigit c = true ∨ c = '-' ∨ c = '.') :
    c ≠ '/' ∧ Text.isBlank c = false := by
  rcases h with hdigit | rfl | rfl
  · refine ⟨?_, Text.isBlank_of_isDigit_any hdigit⟩
    rintro rfl
    exact absurd hdigit (by decide)
  · decide
  · decide

lemma IsValue.slash_not_mem (h : IsValue value zoom latitude longitude tail) :
    '/' ∉ zoom ∧ '/' ∉ latitude ∧ '/' ∉ longitude :=
  ⟨fun hmem => (plain_of_isDigit (Or.inl (h.isShort_zoom.digits _ hmem))).1 rfl,
    fun hmem => (plain_of_isDigit (h.isDecimal_latitude.mem hmem)).1 rfl,
    fun hmem => (plain_of_isDigit (h.isDecimal_longitude.mem hmem)).1 rfl⟩

lemma IsValue.trim_numbers (h : IsValue value zoom latitude longitude tail) :
    Text.trim zoom = zoom ∧ Text.trim latitude = latitude ∧ Text.trim longitude = longitude :=
  ⟨Text.trim_eq_self fun c hc => (plain_of_isDigit (Or.inl (h.isShort_zoom.digits c hc))).2,
    Text.trim_eq_self fun _ hc => (plain_of_isDigit (h.isDecimal_latitude.mem hc)).2,
    Text.trim_eq_self fun _ hc => (plain_of_isDigit (h.isDecimal_longitude.mem hc)).2⟩

lemma ofParts?_eq_some_iff {focus : MapFocus} {v : MapView} :
    ofParts? zoom latitude longitude focus = some v ↔
      IsShort Text.isDigit 2 zoom ∧ IsDecimal Text.isDigit 2 latitude ∧
        IsDecimal Text.isDigit 3 longitude ∧ ⟨zoom, latitude, longitude, focus⟩ = v := by
  rw [ofParts?, Option.ite_none_right_eq_some, Bool.and_eq_true, Bool.and_eq_true,
    isShortNumber_iff, isCoordinate_iff, isCoordinate_iff, Option.some.injEq, and_assoc, and_assoc]

/-- A view is read exactly from the values that name it, and it shows what the text behind the
longitude asks for. -/
lemma read?_eq_some_iff {v : MapView} :
    read? value = some v ↔
      ∃ tail, IsValue value v.zoom v.latitude v.longitude tail ∧ v.focus = focusOf tail.tail := by
  constructor
  · intro h
    simp only [read?, Option.bind_eq_bind, Option.bind_eq_some_iff, Prod.exists] at h
    obtain ⟨zoom, rest, hzoom, latitude, rest', hlatitude, h⟩ := h
    obtain ⟨-, hvalue⟩ := Text.cutWhere?_char_eq_some_iff.1 hzoom
    obtain ⟨-, rfl⟩ := Text.cutWhere?_char_eq_some_iff.1 hlatitude
    split at h
    · -- no text asks for the map alone, as a blank one does
      obtain ⟨hz, hlat, hlon, rfl⟩ := ofParts?_eq_some_iff.1 h
      exact ⟨[], ⟨hz, hlat, hlon, Or.inl rfl, by rw [hvalue, List.append_nil]⟩, rfl⟩
    · rename_i longitude extra hcut
      obtain ⟨-, rfl⟩ := Text.cutWhere?_char_eq_some_iff.1 hcut
      rw [Option.ite_none_left_eq_some] at h
      obtain ⟨hline, h⟩ := h
      obtain ⟨hz, hlat, hlon, rfl⟩ := ofParts?_eq_some_iff.1 h
      exact ⟨'/' :: extra, ⟨hz, hlat, hlon, Or.inr ⟨extra, hline, rfl⟩, hvalue⟩, rfl⟩
  · rintro ⟨tail, h, hfocus⟩
    obtain ⟨zoom, latitude, longitude, focus⟩ := v
    obtain rfl : focus = focusOf tail.tail := hfocus
    obtain ⟨hslashZoom, hslashLatitude, hslashLongitude⟩ := h.slash_not_mem
    have hzoom : Text.cutWhere? (· == '/') (Text.trim value) =
        some (zoom, latitude ++ '/' :: (longitude ++ tail)) :=
      Text.cutWhere?_char_eq_some_iff.2 ⟨hslashZoom, h.trim_eq⟩
    have hlatitude : Text.cutWhere? (· == '/') (latitude ++ '/' :: (longitude ++ tail)) =
        some (latitude, longitude ++ tail) :=
      Text.cutWhere?_char_eq_some_iff.2 ⟨hslashLatitude, rfl⟩
    have hparts : ofParts? zoom latitude longitude (focusOf tail.tail) =
        some ⟨zoom, latitude, longitude, focusOf tail.tail⟩ :=
      ofParts?_eq_some_iff.2
        ⟨h.isShort_zoom, h.isDecimal_latitude, h.isDecimal_longitude, rfl⟩
    simp only [read?, hzoom, hlatitude, Option.bind_eq_bind, Option.bind_some]
    rcases h.line_tail with rfl | ⟨extra, hline, rfl⟩
    · rw [List.append_nil, Text.cutWhere?_char_eq_none_iff.2 hslashLongitude]
      exact hparts
    · have hcut : Text.cutWhere? (· == '/') (longitude ++ '/' :: extra) = some (longitude, extra) :=
        Text.cutWhere?_char_eq_some_iff.2 ⟨hslashLongitude, rfl⟩
      rw [hcut]
      simp only [if_neg hline]
      exact hparts

/-- The texts before the first three slashes of a value, without blanks around them. -/
def numbers (value : Text) : List Text := ((Text.splitAt '/' value).take 3).map Text.trim

/-- The text behind the third slash of a value, without blanks around it. -/
def asked (value : Text) : Text := Text.trim (Text.join "/" ((Text.splitAt '/' value).drop 3))

/-- The pieces of a value: the blanks around it belong to the first one and to the last one. -/
lemma IsValue.splitAt_slash (h : IsValue value zoom latitude longitude tail) :
    ∃ a b, (∀ c ∈ a, Text.isBlank c = true) ∧ (∀ c ∈ b, Text.isBlank c = true) ∧
      Text.splitAt '/' value =
        (a ++ zoom) :: latitude :: Text.splitAt '/' (longitude ++ tail ++ b) := by
  obtain ⟨a, b, ha, hb, hvalue⟩ := Text.exists_eq_append_trim_append value
  obtain ⟨hzoom, hlatitude, -⟩ := h.slash_not_mem
  have hfront : '/' ∉ a ++ zoom := by
    rw [List.mem_append]
    rintro (hmem | hmem)
    · exact absurd (ha _ hmem) (by decide)
    · exact hzoom hmem
  have hwritten : value = (a ++ zoom) ++ '/' :: (latitude ++ '/' :: (longitude ++ tail ++ b)) := by
    rw [hvalue, h.trim_eq]
    simp
  refine ⟨a, b, ha, hb, ?_⟩
  rw [hwritten, Text.splitAt_append, Text.splitAt_append, Text.splitAt_of_not_mem hfront,
    Text.splitAt_of_not_mem hlatitude]
  rfl

/-- The numbers of a value stand before its first three slashes, and the text behind the longitude
stands behind the third one. -/
lemma IsValue.parts (h : IsValue value zoom latitude longitude tail) :
    numbers value = [zoom, latitude, longitude] ∧ asked value = Text.trim tail.tail := by
  obtain ⟨a, b, ha, hb, hsplit⟩ := h.splitAt_slash
  obtain ⟨hzoom, hlatitude, hlongitude⟩ := h.trim_numbers
  have hslash := h.slash_not_mem.2.2
  have hfront : Text.trim (a ++ zoom) = zoom := by
    rw [Text.trim_append_left_of_forall ha, hzoom]
  -- the blanks behind the value belong to the longitude, or else to the text behind it
  rcases h.line_tail with rfl | ⟨extra, -, rfl⟩
  · have hback : '/' ∉ longitude ++ b := by
      rw [List.mem_append]
      rintro (hmem | hmem)
      · exact hslash hmem
      · exact absurd (hb _ hmem) (by decide)
    rw [List.append_nil, Text.splitAt_of_not_mem hback] at hsplit
    rw [numbers, asked, hsplit]
    refine ⟨?_, rfl⟩
    simp [hfront, hlatitude, hlongitude, Text.trim_append_of_forall hb]
  · have hrest : longitude ++ '/' :: extra ++ b = longitude ++ '/' :: (extra ++ b) := by simp
    have hjoin : Text.join "/" (Text.splitAt '/' (extra ++ b)) = extra ++ b :=
      Text.join_splitAt '/' (extra ++ b)
    rw [hrest, Text.splitAt_append, Text.splitAt_of_not_mem hslash] at hsplit
    rw [numbers, asked, hsplit]
    refine ⟨by simp [hfront, hlatitude, hlongitude], ?_⟩
    simp only [List.cons_append, List.nil_append, List.drop_succ_cons, List.drop_zero, hjoin,
      List.tail_cons]
    exact Text.trim_append_of_forall hb extra

end MapView

/-! ## Addresses -/

namespace Provider

open MapView (IsShort IsDecimal IsValue numbers asked)

variable {digit : Char → Bool} {latitude longitude tail request : Text} {v : MapView}

/-- What an address asks the server of the map for besides the map, if the value asks for `asked`:
nothing, a marker at the place, or a search, percent-coded. -/
structure IsRequest (asked latitude longitude request : Text) : Prop where
  plain_iff : request = [] ↔ asked = []
  marker_iff : request = "?mlat=" ++ latitude ++ "&mlon=" ++ longitude ↔ asked = "!"
  search : asked ≠ [] → asked ≠ "!" → ∃ query, query ≠ [] ∧ Percent.IsCoded query ∧
    Percent.decode query = asked ∧ request = "search?query=" ++ query

/-- The address of the view that a value names, with the digits of a class: the server, what it is
asked for, and the numbers of the value. -/
def IsMapUrl (digit : Char → Bool) (value url : Text) : Prop :=
  ∃ zoom latitude longitude request,
    IsShort digit 2 zoom ∧ IsDecimal digit 2 latitude ∧ IsDecimal digit 3 longitude ∧
      numbers value = [zoom, latitude, longitude] ∧
      IsRequest (asked value) latitude longitude request ∧
      url = "https://www.openstreetmap.org/" ++ request ++
        ("#map=" ++ zoom ++ "/" ++ latitude ++ "/" ++ longitude)

/-- The digits in the numbers of a value are ASCII digits. -/
def HasAsciiNumbers (value : Text) : Prop :=
  ∀ t ∈ numbers value, ∀ c ∈ t, Text.isDigit c = true → c.isDigit = true

/-- A graphic character of ASCII, that is a printable one other than the space. -/
def isGraphic (c : Char) : Bool := 0x21 ≤ c.toNat && c.toNat ≤ 0x7E

/-! ### What is asked for -/

/-- What the address of a view asks for besides the map. -/
def requestOf (v : MapView) : Text :=
  match v.focus with
  | .plain => []
  | .marker => "?mlat=" ++ v.latitude ++ "&mlon=" ++ v.longitude
  | .search query => "search?query=" ++ Percent.encode query

/-- A value that names a view leads to the address of the view, and no other value leads anywhere. -/
lemma url?_mapTarget (title value : Text) :
    (mapTarget title value).url? =
      (MapView.read? value).map fun v => mapSite ++ requestOf v ++ mapHash v := by
  unfold mapTarget
  cases MapView.read? value with
  | none => rfl
  | some v => cases hfocus : v.focus <;> simp [requestOf, hfocus]

/-- The address of a view asks for what the text behind the longitude asks for. -/
lemma isRequest_requestOf {extra : Text} (h : v.focus = MapView.focusOf extra) :
    IsRequest (Text.trim extra) v.latitude v.longitude (requestOf v) := by
  unfold MapView.focusOf at h
  split at h
  · rename_i htrim
    have hrequest : requestOf v = [] := by rw [requestOf, h]
    rw [htrim, hrequest]
    exact ⟨by simp, by simp, fun hne => absurd rfl hne⟩
  · rename_i htrim
    have hrequest : requestOf v = "?mlat=" ++ v.latitude ++ "&mlon=" ++ v.longitude := by
      rw [requestOf, h]
    rw [htrim, hrequest]
    exact ⟨by simp, by simp, fun _ hne => absurd rfl hne⟩
  · rename_i hnil hmark
    have hrequest : requestOf v = "search?query=" ++ Percent.encode (Text.trim extra) := by
      rw [requestOf, h]
    have hcode : Percent.encode (Text.trim extra) ≠ [] := fun hcode =>
      hnil (Percent.encode_injective (hcode.trans rfl))
    rw [hrequest]
    refine ⟨iff_of_false (by simp) hnil, iff_of_false (by simp) hmark, fun _ _ => ?_⟩
    exact ⟨_, hcode, Percent.isCoded_encode _, Percent.decode_encode _, rfl⟩

/-- The address of a view that a value names is made of the numbers of the value and of what it asks
for. -/
lemma isMapUrl_of_isValue (h : IsValue value v.zoom v.latitude v.longitude tail)
    (hfocus : v.focus = MapView.focusOf tail.tail) :
    IsMapUrl Text.isDigit value (mapSite ++ requestOf v ++ mapHash v) := by
  obtain ⟨hnumbers, hasked⟩ := h.parts
  have hrequest : IsRequest (asked value) v.latitude v.longitude (requestOf v) := by
    rw [hasked]
    exact isRequest_requestOf hfocus
  exact ⟨v.zoom, v.latitude, v.longitude, requestOf v, h.isShort_zoom, h.isDecimal_latitude,
    h.isDecimal_longitude, hnumbers, hrequest, rfl⟩

/-! ### Characters of an address -/

/-- An unreserved character is graphic. -/
lemma isGraphic_of_isUnreserved (h : Percent.isUnreserved c = true) : isGraphic c = true := by
  rw [Percent.isUnreserved, Bool.or_eq_true, Bool.or_eq_true, Bool.or_eq_true, Bool.or_eq_true]
    at h
  rcases h with (((halpha | hmark) | hmark) | hmark) | hmark
  · have hletter : ((decide (65 ≤ c.val ∧ c.val ≤ 90) ||
        (decide (97 ≤ c.val) && decide (c.val ≤ 122))) ||
          (decide (48 ≤ c.val) && decide (c.val ≤ 57))) = true := halpha
    have hbounds : ((65 ≤ c.toNat ∧ c.toNat ≤ 90) ∨ (97 ≤ c.toNat ∧ c.toNat ≤ 122)) ∨
        (48 ≤ c.toNat ∧ c.toNat ≤ 57) := by
      simpa [UInt32.le_iff_toNat_le] using hletter
    rw [isGraphic, Bool.and_eq_true, decide_eq_true_eq, decide_eq_true_eq]
    omega
  all_goals
    rw [beq_iff_eq] at hmark
    subst hmark
    decide

/-- The characters of a percent-coded text are graphic. -/
lemma isGraphic_of_isCoded (h : Percent.IsCoded t) : ∀ c ∈ t, isGraphic c = true := by
  have hhex : ∀ c ∈ "0123456789ABCDEF".toList, isGraphic c = true :=
    List.all_eq_true.1 (by decide)
  have hpercent : isGraphic '%' = true := by decide
  induction h with
  | nil => simp
  | plain c hc _ ih => exact List.forall_mem_cons.2 ⟨isGraphic_of_isUnreserved hc, ih⟩
  | escape high low hhigh hlow _ ih =>
    simp only [List.forall_mem_cons]
    exact ⟨hpercent, hhex high hhigh, hhex low hlow, ih⟩

lemma isGraphic_of_isDigit (h : c.isDigit = true) : isGraphic c = true := by
  refine isGraphic_of_isUnreserved ?_
  simp [Percent.isUnreserved, Char.isAlphanum, h]

lemma isGraphic_of_isDecimal {limit : Nat} (h : IsDecimal Char.isDigit limit t) :
    ∀ c ∈ t, isGraphic c = true := by
  intro c hc
  rcases h.mem hc with hdigit | rfl | rfl
  · exact isGraphic_of_isDigit hdigit
  · decide
  · decide

/-- The characters of a request are graphic if those of its place are. -/
lemma IsRequest.graphic {asked : Text} (h : IsRequest asked latitude longitude request)
    (hlatitude : ∀ c ∈ latitude, isGraphic c = true)
    (hlongitude : ∀ c ∈ longitude, isGraphic c = true) : ∀ c ∈ request, isGraphic c = true := by
  by_cases hnil : asked = []
  · rw [h.plain_iff.2 hnil]
    simp
  · by_cases hmark : asked = "!"
    · have hmlat : ∀ c ∈ "?mlat=".toList, isGraphic c = true :=
        List.all_eq_true.1 (by decide)
      have hmlon : ∀ c ∈ "&mlon=".toList, isGraphic c = true :=
        List.all_eq_true.1 (by decide)
      rw [h.marker_iff.2 hmark]
      simp only [List.forall_mem_append]
      exact ⟨⟨⟨hmlat, hlatitude⟩, hmlon⟩, hlongitude⟩
    · obtain ⟨query, -, hcoded, -, rfl⟩ := h.search hnil hmark
      have hsearch : ∀ c ∈ "search?query=".toList, isGraphic c = true :=
        List.all_eq_true.1 (by decide)
      exact List.forall_mem_append.2 ⟨hsearch, isGraphic_of_isCoded hcoded⟩

/-- The characters of an address with ASCII digits are graphic. -/
lemma IsMapUrl.graphic (h : IsMapUrl Char.isDigit value url) :
    ∀ c ∈ url, isGraphic c = true := by
  obtain ⟨zoom, latitude, longitude, request, hzoom, hlatitude, hlongitude, -, hrequest, rfl⟩ := h
  have hsite : ∀ c ∈ "https://www.openstreetmap.org/".toList, isGraphic c = true :=
    List.all_eq_true.1 (by decide)
  have hhash : ∀ c ∈ "#map=".toList, isGraphic c = true := List.all_eq_true.1 (by decide)
  have hslash : ∀ c ∈ "/".toList, isGraphic c = true := List.all_eq_true.1 (by decide)
  have hlat := isGraphic_of_isDecimal hlatitude
  have hlon := isGraphic_of_isDecimal hlongitude
  have hdigits : ∀ c ∈ zoom, isGraphic c = true := fun c hc =>
    isGraphic_of_isDigit (hzoom.digits c hc)
  simp only [List.forall_mem_append]
  exact ⟨⟨hsite, hrequest.graphic hlat hlon⟩,
    ⟨⟨⟨⟨hhash, hdigits⟩, hslash⟩, hlat⟩, hslash⟩, hlon⟩

/-- The numbers of a value stand in the address of its view. -/
lemma IsMapUrl.mem_of_mem_numbers (h : IsMapUrl digit value url) (ht : t ∈ numbers value)
    (hc : c ∈ t) : c ∈ url := by
  obtain ⟨zoom, latitude, longitude, request, -, -, -, hnumbers, -, rfl⟩ := h
  rw [hnumbers] at ht
  simp only [List.mem_cons, List.not_mem_nil, or_false] at ht
  simp only [List.mem_append]
  rcases ht with rfl | rfl | rfl <;> simp [hc]

/-! ### ASCII digits -/

/-- An address has ASCII digits exactly if the numbers of its value have. -/
lemma IsMapUrl.ascii_iff (h : IsMapUrl Text.isDigit value url) :
    IsMapUrl Char.isDigit value url ↔ HasAsciiNumbers value := by
  constructor
  · rintro ⟨zoom, latitude, longitude, request, hzoom, hlatitude, hlongitude, hnumbers, -, -⟩
    have hdecimal : ∀ {limit t}, IsDecimal Char.isDigit limit t →
        ∀ c ∈ t, Text.isDigit c = true → c.isDigit = true := by
      intro limit t ht c hc hdigit
      rcases ht.mem hc with hascii | rfl | rfl
      · exact hascii
      · exact absurd hdigit (by decide)
      · exact absurd hdigit (by decide)
    unfold HasAsciiNumbers
    rw [hnumbers]
    simp only [List.forall_mem_cons]
    exact ⟨fun c hc _ => hzoom.digits c hc, hdecimal hlatitude, hdecimal hlongitude, by simp⟩
  · intro hascii
    obtain ⟨zoom, latitude, longitude, request, hzoom, hlatitude, hlongitude, hnumbers, hrest⟩ := h
    unfold HasAsciiNumbers at hascii
    rw [hnumbers] at hascii
    simp only [List.forall_mem_cons] at hascii
    exact ⟨zoom, latitude, longitude, request, hzoom.congr hascii.1, hlatitude.congr hascii.2.1,
      hlongitude.congr hascii.2.2.1, hnumbers, hrest⟩

/-- The characters of an address are graphic exactly if the numbers of its value have ASCII digits. -/
lemma IsMapUrl.graphic_iff (h : IsMapUrl Text.isDigit value url) :
    (∀ c ∈ url, isGraphic c = true) ↔ HasAsciiNumbers value := by
  constructor
  · -- a digit outside ASCII would stand in the address as it is
    intro hgraphic t ht c hc hdigit
    have hbounds := hgraphic c (h.mem_of_mem_numbers ht hc)
    rw [isGraphic, Bool.and_eq_true, decide_eq_true_eq, decide_eq_true_eq] at hbounds
    exact Text.isDigit_ascii_of_lt hdigit (by omega)
  · intro hascii
    exact (h.ascii_iff.2 hascii).graphic

/-! ### Links to the map -/

/-- A value leads to the map exactly if it names a view, and then to the address of that view.  The
address is in ASCII digits, and it has graphic characters of ASCII only, exactly if the numbers of
the value are in ASCII digits. -/
theorem url?_openStreetMap (language value : Text) :
    ((openStreetMap.target language value).url?.isSome = true ↔
        ∃ zoom latitude longitude tail, IsValue value zoom latitude longitude tail) ∧
      ∀ url, (openStreetMap.target language value).url? = some url →
        IsMapUrl Text.isDigit value url ∧
          (IsMapUrl Char.isDigit value url ↔ HasAsciiNumbers value) ∧
            ((∀ c ∈ url, isGraphic c = true) ↔ HasAsciiNumbers value) := by
  have hurl : (openStreetMap.target language value).url? =
      (MapView.read? value).map fun v => mapSite ++ requestOf v ++ mapHash v :=
    url?_mapTarget _ value
  rw [hurl]
  refine ⟨?_, ?_⟩
  · rw [Option.isSome_map, Option.isSome_iff_exists]
    constructor
    · rintro ⟨v, hv⟩
      obtain ⟨tail, h, -⟩ := MapView.read?_eq_some_iff.1 hv
      exact ⟨v.zoom, v.latitude, v.longitude, tail, h⟩
    · rintro ⟨zoom, latitude, longitude, tail, h⟩
      exact ⟨⟨zoom, latitude, longitude, MapView.focusOf tail.tail⟩,
        MapView.read?_eq_some_iff.2 ⟨tail, h, rfl⟩⟩
  · intro url h
    obtain ⟨v, hv, rfl⟩ := Option.map_eq_some_iff.1 h
    obtain ⟨tail, hvalue, hfocus⟩ := MapView.read?_eq_some_iff.1 hv
    have hmap := isMapUrl_of_isValue hvalue hfocus
    exact ⟨hmap, hmap.ascii_iff, hmap.graphic_iff⟩

/-- The text to search for begins behind the third slash and ends at the blanks behind it. -/
example : (openStreetMap.target "en" "15/53.6/-10/ a/ü ").url? =
    some "https://www.openstreetmap.org/search?query=a%2F%C3%BC#map=15/53.6/-10".toList := by
  decide

/-- A latitude in Arabic digits stands in the address as it is, where it would have to be escaped. -/
theorem url?_openStreetMap_arabicDigit :
    (openStreetMap.target "en" "1/٥/1").url? =
        some "https://www.openstreetmap.org/#map=1/٥/1".toList ∧
      ¬ ∀ c ∈ "https://www.openstreetmap.org/#map=1/٥/1".toList, isGraphic c = true :=
  ⟨by decide, fun h => absurd (List.all_eq_true.2 h) (by decide)⟩

end Provider

end NoteLinks
