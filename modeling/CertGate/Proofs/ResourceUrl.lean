import CertGate.Directory.Kubernetes
import CertGate.Proofs.Outcomes
import CertGate.Proofs.PathWalk
import CertGate.Proofs.Utf8RoundTrip

/-!
# The URL of a record

A record is looked up at the segments of the API server's URL, then the place of the collection, then the
name of the application. The name is encoded together with its percent signs, so it is read back as it
was. It gets lost on the way where a URL sees less of it than there is: tabs and line ends are not seen
at all, and dots are steps. The segments of the API server get lost where they are two empty ones.

## Key results

- `Url.decodeBytes_encode_of_hidesEscapes`: a text that is encoded with its percent signs is decoded to
  itself
- `Url.isDoubleDot_encode_iff`, `Url.isSingleDot_encode_iff`: nothing but dots is turned into a step
- `KubernetesDirectory.segments_resourceUrl`: where each name leads
- `KubernetesDirectory.namesRecord_iff`: which names lead to a record of their own
- `KubernetesDirectory.namesRecords_of_ofConfig`: what the lookup URLs of a directory tell apart
-/

namespace CertGate

namespace Url

/-! ## Texts that are encoded with their percent signs -/

/-- A set under which `'%'` is encoded and `'.'` is not. -/
structure PercentSet.HidesEscapes (set : PercentSet) : Prop where
  percent : set '%' = true
  dot : set '.' = false

section
variable (set : PercentSet) (hset : set.HidesEscapes)
include hset

/-- A text that is encoded under a set that `HidesEscapes` is decoded to itself. -/
theorem decodeBytes_encode_of_hidesEscapes (cs : List Char) :
    decodeBytes (Text.Utf8.encode (encode set cs)) = Text.Utf8.encode cs := by
  induction cs with
  | nil => rfl
  | cons c cs ih =>
    have hchar : decodeBytes (Text.Utf8.encode (encodeChar set c) ++
        Text.Utf8.encode (encode set cs)) =
          String.utf8EncodeChar c ++ decodeBytes (Text.Utf8.encode (encode set cs)) := by
      by_cases hc : c = '%'
      · -- a percent sign is encoded itself, so none that stands in the text is taken for an escape
        have hnot : ¬(c.toNat < 0x80 ∧ set c = false) := by
          rintro ⟨-, hkept⟩
          rw [hc, hset.percent] at hkept
          cases hkept
        rw [encodeChar, if_neg hnot]
        exact decodeBytes_encodeBytes _ _
      · exact decodeBytes_encodeChar set c hc _
    rw [encode, List.flatMap_cons, ← encode, Text.Utf8.encode, List.flatMap_append,
      ← Text.Utf8.encode, ← Text.Utf8.encode, hchar, ih]
    rfl

/-- A text that is encoded under a set that `HidesEscapes` spells out no dot. -/
theorem dotted_encode_of_hidesEscapes (cs : List Char) :
    dotted (encode set cs) = encode set cs := by
  induction cs with
  | nil => rfl
  | cons c cs ih =>
    rw [encode, List.flatMap_cons, ← encode, encodeChar]
    split
    · next hkept =>
      -- a percent sign that is kept could start a dot, but none is kept
      rw [List.singleton_append, dotted_cons, ih]
      rintro cs' rfl
      rw [hset.percent] at hkept
      cases hkept.2
    · -- an encoded character other than the dot spells out none
      next hencoded =>
      have hdot : c ≠ '.' := fun heq => hencoded (heq ▸ ⟨by decide, hset.dot⟩)
      rw [dotted_encodeBytes _ (ne_of_mem_utf8EncodeChar c '.' (by decide) hdot), ih]

/-- A text of one or two dots is encoded to itself, and no other text is encoded to it, as long as the
set `HidesEscapes`. -/
theorem encode_eq_dots_iff (cs dots : List Char) (hlength : dots.length < 3)
    (hdots : ∀ c ∈ dots, c = '.') : encode set cs = dots ↔ cs = dots := by
  constructor
  · intro h
    rw [← h, encode_eq_self_of_length set cs (by rw [h]; exact hlength)]
  · rintro rfl
    induction cs with
    | nil => rfl
    | cons c cs ih =>
      have hc := hdots c List.mem_cons_self
      have hcs := ih (Nat.lt_of_succ_lt hlength) fun d hd => hdots d (List.mem_cons_of_mem c hd)
      rw [hc, encode_cons_of_kept set '.' cs (by decide) hset.dot, hcs]

/-- `encode` makes `isDoubleDot` of two dots and of no other text. -/
theorem isDoubleDot_encode_iff (cs : List Char) :
    isDoubleDot (encode set cs) = true ↔ cs = ['.', '.'] := by
  rw [isDoubleDot, dotted_encode_of_hidesEscapes set hset, beq_iff_eq]
  exact encode_eq_dots_iff set hset cs ['.', '.'] (by decide) (by simp)

/-- `encode` makes `isSingleDot` of one dot and of no other text. -/
theorem isSingleDot_encode_iff (cs : List Char) :
    isSingleDot (encode set cs) = true ↔ cs = ['.'] := by
  rw [isSingleDot, dotted_encode_of_hidesEscapes set hset, beq_iff_eq]
  exact encode_eq_dots_iff set hset cs ['.'] (by decide) (by simp)

end

/-! ## Adding segments -/

/-- The URL `u` with other segments in its path. -/
def withSegments (u : Url) (ss : List String) : Url :=
  { u with path := .segments ss }

/-- The characters that a URL sees of a text: none for which `isDropped` holds. -/
def visible (text : String) : List Char :=
  text.toList.filter (!isDropped ·)

/-- The set that `appendSegment` encodes a segment of `u` with. -/
def segmentSet (u : Url) : PercentSet :=
  if u.isSpecial then .specialSegment else .segment

/-- Both sets for segments are such that `HidesEscapes` holds: percent signs are encoded, dots are not. -/
theorem hidesEscapes_segmentSet (u : Url) : u.segmentSet.HidesEscapes := by
  unfold segmentSet
  split <;> exact ⟨by decide, by decide⟩

/-- The segments that another one is added to by `pushSegment`. A slash alone has none. -/
def stem (ss : List String) : List String :=
  if ss = [""] then [] else ss

/-- Behind a segment that is not empty, `stem` has all segments. -/
theorem stem_append_of_ne (ss : List String) (s : String) (hs : s ≠ "") :
    stem (ss ++ [s]) = ss ++ [s] := by
  refine if_neg fun h => ?_
  obtain ⟨-, hlast⟩ := List.append_inj' (h.trans (List.nil_append [""]).symm) rfl
  exact hs (List.cons.inj hlast).1

/-- `appendSegment` adds what is `visible` of a name, encoded, unless the name is passed over as dots. -/
theorem appendSegment_withSegments (u : Url) (ss : List String) (name : String)
    (hdot : name ≠ ".") (hdots : name ≠ "..") :
    (u.withSegments ss).appendSegment name = u.withSegments
      (pushSegment (u.scheme == "file") (stem ss) (encode u.segmentSet (visible name)) true) := by
  have hnot : ¬(name = "." ∨ name = "..") := not_or.2 ⟨hdot, hdots⟩
  simp only [appendSegment, withSegments, if_neg hnot]
  rfl

/-- A segment that a URL takes as it is under `set`: nothing in it is dropped or encoded, and it is no
step and no drive. -/
def Verbatim (set : PercentSet) (name : String) : Prop :=
  visible name = name.toList ∧ encode set name.toList = name.toList ∧
    name ∉ ["", ".", ".."] ∧ isDriveLetter name.toList = false

instance (set : PercentSet) (name : String) : Decidable (Verbatim set name) := by
  unfold Verbatim
  infer_instance

/-- `appendSegment` adds a segment that is `Verbatim` behind the others as it is. -/
theorem appendSegment_of_verbatim (u : Url) (ss : List String) (name : String)
    (hname : Verbatim u.segmentSet name) :
    (u.withSegments ss).appendSegment name = u.withSegments (stem ss ++ [name]) := by
  obtain ⟨hvisible, hencode, hne, hdrive⟩ := hname
  simp only [List.mem_cons, List.not_mem_nil, or_false, not_or] at hne
  obtain ⟨-, hdot, hdots⟩ := hne
  -- the name is no step, before and after it is encoded
  have hset := u.hidesEscapes_segmentSet
  have hup := mt (isDoubleDot_encode_iff _ hset name.toList).1 fun h => hdots (String.toList_inj.1 h)
  have hstay := mt (isSingleDot_encode_iff _ hset name.toList).1 fun h => hdot (String.toList_inj.1 h)
  have hkept : normalDrive (u.scheme == "file") (stem ss) name.toList = name.toList := by
    simp only [normalDrive, hdrive, Bool.and_false]
  rw [hencode] at hup hstay
  rw [appendSegment_withSegments u ss name hdot hdots, hvisible, hencode, pushSegment, if_neg hup,
    if_neg hstay, hkept, String.ofList_toList]

/-- Segments that are all `Verbatim` are added behind the others in their order. -/
theorem foldl_appendSegment_of_verbatim (names : List String) (u : Url) (ss : List String)
    (hnames : ∀ n ∈ names, Verbatim u.segmentSet n) (hss : stem ss = ss) :
    names.foldl appendSegment (u.withSegments ss) = u.withSegments (ss ++ names) := by
  induction names generalizing ss with
  | nil => rw [List.foldl_nil, List.append_nil]
  | cons n names ih =>
    have hn := hnames n List.mem_cons_self
    have hne : n ≠ "" := fun h => hn.2.2.1 (h ▸ List.mem_cons_self)
    have hrest := ih (ss ++ [n]) (fun m hm => hnames m (List.mem_cons_of_mem n hm))
      (stem_append_of_ne ss n hne)
    rw [List.foldl_cons, appendSegment_of_verbatim u ss n hn, hss, hrest, List.append_assoc,
      List.singleton_append]

end Url

namespace KubernetesDirectory

open Url (visible stem segmentSet)

/-! ## Where names lead -/

/-- The segments `ss` without an empty one at the end. -/
def withoutTrailing (ss : List String) : List String :=
  if ss.getLast? = some "" then ss.dropLast else ss

/-- The segments of the collection below the API server: those behind `baseSegments`. -/
def collectionPlace : List String :=
  ["apis", group, version, collection]

/-- The segments below which those of `collectionPlace` are added. -/
def baseSegments (d : KubernetesDirectory) : List String :=
  stem d.base.dropTrailingSlash.segments

/-- The segments of the list of all records: `baseSegments` and `collectionPlace`. -/
def collectionSegments (d : KubernetesDirectory) : List String :=
  d.baseSegments ++ collectionPlace

/-- Every segment of `collectionPlace` is `Verbatim` in every URL. -/
theorem verbatim_of_mem_collectionPlace (u : Url) (n : String) (hn : n ∈ collectionPlace) :
    Url.Verbatim u.segmentSet n := by
  have hall : ∀ special : Bool, ∀ n ∈ collectionPlace,
      Url.Verbatim (if special then .specialSegment else .segment) n := by decide +kernel
  exact hall u.isSpecial n hn

variable (d : KubernetesDirectory)

/-- `dropTrailingSlash` changes nothing of a URL but its segments. -/
theorem withSegments_dropTrailingSlash (u : Url) (h : u.cannotBeABase = false) :
    u.withSegments u.dropTrailingSlash.segments = u.dropTrailingSlash := by
  obtain ⟨scheme, authority, path, query, fragment⟩ := u
  cases path with
  | opaqueText text => cases h
  | segments ss =>
    simp only [Url.dropTrailingSlash]
    split <;> rfl

/-- `resourceUrl` adds the name to the segments of the collection. -/
theorem resourceUrl_eq (h : d.base.cannotBeABase = false) (name : String) :
    d.resourceUrl name = (d.base.withSegments d.collectionSegments).appendSegment name := by
  have hplace := verbatim_of_mem_collectionPlace d.base
  -- the first segment takes the place of a slash alone, all others come to stand behind it
  have hfirst := Url.appendSegment_of_verbatim d.base d.base.dropTrailingSlash.segments "apis"
    (hplace "apis" List.mem_cons_self)
  have hrest := Url.foldl_appendSegment_of_verbatim [group, version, collection] d.base
    (d.baseSegments ++ ["apis"]) (fun n hn => hplace n (List.mem_cons_of_mem "apis" hn))
    (Url.stem_append_of_ne d.baseSegments "apis" (by decide))
  rw [withSegments_dropTrailingSlash d.base h, ← baseSegments] at hfirst
  rw [← hfirst, List.append_assoc] at hrest
  exact congrArg (·.appendSegment name) hrest

/-- The collection stands behind a segment that is not empty, so `stem` changes nothing of its
segments. -/
theorem stem_collectionSegments : stem d.collectionSegments = d.collectionSegments := by
  have hlast : d.collectionSegments = (d.baseSegments ++ ["apis", group, version]) ++ [collection] := by
    rw [collectionSegments, List.append_assoc]
    rfl
  rw [hlast]
  exact Url.stem_append_of_ne _ collection (by decide)

/-- Behind `collectionSegments` no segment is taken for a drive, and a step up drops the last one. -/
theorem pushSegment_collectionSegments (isFile : Bool) (segment : List Char) :
    Url.pushSegment isFile d.collectionSegments segment true =
      if Url.isDoubleDot segment then d.collectionSegments.dropLast ++ [""]
      else if Url.isSingleDot segment then d.collectionSegments ++ [""]
      else d.collectionSegments ++ [String.ofList segment] := by
  have hlength : 4 ≤ d.collectionSegments.length := by
    rw [collectionSegments, List.length_append]
    exact Nat.le_add_left 4 _
  -- four segments are too many for a drive letter to be among those that a step up keeps
  have hshorten := Url.shorten_of_length isFile d.collectionSegments (by omega)
  have hempty : d.collectionSegments.isEmpty = false :=
    List.isEmpty_eq_false_iff.2 (List.ne_nil_of_length_pos (by omega))
  have hdrive : Url.normalDrive isFile d.collectionSegments segment = segment := by
    simp only [Url.normalDrive, hempty, Bool.and_false, Bool.false_and]
  rw [Url.pushSegment, hshorten, hdrive]
  rfl

/-- Where `resourceUrl` leads with a name: to a segment of its own behind those of the collection,
unless what is `visible` of the name is a step. Two dots lead out of the collection, unless they are
the whole name. -/
theorem segments_resourceUrl (h : d.base.cannotBeABase = false) (name : String) :
    (d.resourceUrl name).segments =
      if name = "." ∨ name = ".." then d.collectionSegments
      else if visible name = ['.', '.'] then d.collectionSegments.dropLast ++ [""]
      else if visible name = ['.'] then d.collectionSegments ++ [""]
      else d.collectionSegments ++
        [String.ofList (Url.encode d.base.segmentSet (visible name))] := by
  have hset := d.base.hidesEscapes_segmentSet
  have hup := Url.isDoubleDot_encode_iff _ hset (visible name)
  have hstay := Url.isSingleDot_encode_iff _ hset (visible name)
  rw [resourceUrl_eq d h]
  split
  · -- dots that are the whole name are passed over
    next hdots =>
    simp only [Url.appendSegment, Url.withSegments, if_pos hdots]
    rfl
  · next hdots =>
    -- of all other names, what is visible is added behind the collection
    obtain ⟨hdot, hdots⟩ := not_or.1 hdots
    rw [Url.appendSegment_withSegments d.base _ name hdot hdots, stem_collectionSegments,
      pushSegment_collectionSegments]
    simp only [hup, hstay, Url.withSegments, Url.segments]

/-! ## Which names lead to a record of their own -/

/-- What the segments of `resourceUrl` are to be decoded to: those of the API server, the place of the
collection and the name. -/
def recordSegments (name : String) : List (List UInt8) :=
  (withoutTrailing d.base.segments).map Url.decode ++ (collectionPlace ++ [name]).map Text.Utf8.bytes

/-- `d.NamesRecord name`: the lookup URL is decoded to the segments of the record of this name. -/
def NamesRecord (name : String) : Prop :=
  (d.resourceUrl name).segments.map Url.decode = d.recordSegments name

instance (name : String) : Decidable (d.NamesRecord name) := by
  unfold NamesRecord
  infer_instance

/-- `IsPlain name`: all of the name is `visible`, and it is no step. -/
structure IsPlain (name : String) : Prop where
  visible : ∀ c ∈ name.toList, Url.isDropped c = false
  dot : name ≠ "."
  dots : name ≠ ".."

/-- All of a name is `visible` exactly if it has no character that a URL drops. -/
theorem visible_eq_toList_iff (name : String) :
    visible name = name.toList ↔ ∀ c ∈ name.toList, Url.isDropped c = false := by
  simp only [visible, List.filter_eq_self, Bool.not_eq_true']

/-- `dropTrailingSlash` drops an empty segment at the end if there is another one in front of it. -/
theorem segments_dropTrailingSlash (u : Url) :
    u.dropTrailingSlash.segments =
      if u.segments.length > 1 ∧ u.segments.getLast? = some "" then u.segments.dropLast
      else u.segments := by
  obtain ⟨scheme, authority, path, query, fragment⟩ := u
  cases path with
  | opaqueText text => rfl
  | segments ss =>
    by_cases hslash : ss.length > 1 ∧ ss.getLast? = some ""
    · simp only [Url.dropTrailingSlash, Url.segments, hslash, and_self, if_true]
    · simp only [Url.dropTrailingSlash, Url.segments, hslash, if_false]

/-- `baseSegments` are those of the API server without an empty one at the end. Of two empty ones both
go. -/
theorem baseSegments_eq :
    d.baseSegments = if d.base.segments = ["", ""] then [] else withoutTrailing d.base.segments := by
  rw [baseSegments, segments_dropTrailingSlash]
  generalize d.base.segments = ss
  by_cases hlast : ss.getLast? = some ""
  · obtain ⟨front, rfl⟩ : ∃ front, ss = front ++ [""] := List.getLast?_eq_some_iff.1 hlast
    have hdrop : (front ++ [""]).dropLast = front := List.dropLast_concat
    have hlength : (front ++ [""]).length > 1 ↔ front ≠ [] := by
      rw [List.length_append, List.length_singleton, ← List.length_pos_iff]
      omega
    rw [withoutTrailing, if_pos hlast, hdrop]
    -- the empty segment is dropped if it is not the only one, and a second one does not count
    by_cases hfront : front = [""]
    · subst hfront
      rfl
    · have htwo : front ++ [""] ≠ ["", ""] := fun h => hfront (List.append_inj_left' h rfl)
      rw [if_neg htwo, stem]
      by_cases hnil : front = []
      · subst hnil
        rfl
      · have hslash : (front ++ [""]).length > 1 ∧ (front ++ [""]).getLast? = some "" :=
          ⟨hlength.2 hnil, hlast⟩
        rw [if_pos hslash, if_neg hfront]
  · -- without an empty segment at the end, neither rule applies
    have hone : ss ≠ [""] := fun h => hlast (h ▸ rfl)
    have htwo : ss ≠ ["", ""] := fun h => hlast (h ▸ rfl)
    rw [withoutTrailing, if_neg hlast, if_neg htwo, if_neg fun h => hlast h.2, stem, if_neg hone]

/-- The segments of `collectionPlace` are decoded to themselves. -/
theorem decode_collectionPlace :
    collectionPlace.map Url.decode = collectionPlace.map Text.Utf8.bytes := by
  decide +kernel

/-- A name for which `IsPlain` holds is encoded as a segment of its own, behind those of the
collection. -/
theorem segments_of_isPlain (h : d.base.cannotBeABase = false) (name : String) (hname : IsPlain name) :
    (d.resourceUrl name).segments = d.collectionSegments ++
      [String.ofList (Url.encode d.base.segmentSet name.toList)] := by
  have hvisible := (visible_eq_toList_iff name).2 hname.visible
  have hdot : name.toList ≠ ['.'] := fun h => hname.dot (String.toList_inj.1 h)
  have hdots : name.toList ≠ ['.', '.'] := fun h => hname.dots (String.toList_inj.1 h)
  have hnot : ¬(name = "." ∨ name = "..") := not_or.2 ⟨hname.dot, hname.dots⟩
  rw [segments_resourceUrl d h, if_neg hnot, hvisible, if_neg hdots, if_neg hdot]

/-- A segment that is encoded under `segmentSet` is decoded to the characters it was encoded from. -/
theorem decode_encode_visible (u : Url) (cs : List Char) :
    Url.decode (String.ofList (Url.encode u.segmentSet cs)) = Text.Utf8.encode cs := by
  rw [Url.decode, Text.Utf8.bytes, String.toList_ofList]
  exact Url.decodeBytes_encode_of_hidesEscapes _ u.hidesEscapes_segmentSet cs

/-- Segments behind `collectionSegments` are decoded to those of the record of a name exactly if no
segment of the API server is lost and they are the name. -/
theorem append_eq_recordSegments_iff (ss : List String) (name : String) :
    (d.collectionSegments ++ ss).map Url.decode = d.recordSegments name ↔
      d.base.segments ≠ ["", ""] ∧ ss.map Url.decode = [Text.Utf8.bytes name] := by
  rw [recordSegments, collectionSegments, baseSegments_eq, List.map_append, List.map_append,
    List.map_append, decode_collectionPlace]
  split
  · next hlost =>
    -- what stands in the place of the segment that is lost is not empty
    have hfirst : Text.Utf8.bytes "apis" ≠ [] := by decide +kernel
    rw [hlost]
    refine iff_of_false (fun h => hfirst ?_) (fun h => h.1 rfl)
    exact (List.cons.inj h).1
  · next hkept =>
    rw [List.append_assoc, List.append_cancel_left_eq, List.append_cancel_left_eq]
    exact (and_iff_right hkept).symm

/-- The `recordSegments` of a name do not end in an empty one. -/
theorem ne_recordSegments_of_empty (ss : List String) (name : String) (hname : name ≠ "") :
    (ss ++ [""]).map Url.decode ≠ d.recordSegments name := by
  intro h
  rw [recordSegments, List.map_append, List.map_append, ← List.append_assoc] at h
  -- the last segments would be the same
  obtain ⟨-, hlast⟩ := List.append_inj' h rfl
  have hbytes : Text.Utf8.bytes "" = Text.Utf8.bytes name := (List.cons.inj hlast).1
  exact hname (Text.Utf8.bytes_injective hbytes).symm

/-- A lookup URL `NamesRecord name` exactly if the name is plain, unless a segment of the API server is
lost. -/
theorem namesRecord_iff (h : d.base.cannotBeABase = false) (name : String) (hname : name ≠ "") :
    d.NamesRecord name ↔ d.base.segments ≠ ["", ""] ∧ IsPlain name := by
  rw [NamesRecord, segments_resourceUrl d h]
  split
  · next hdots =>
    -- passed over, the name leaves the segments of the collection alone
    have hends := append_eq_recordSegments_iff d [] name
    rw [List.append_nil] at hends
    refine iff_of_false (fun hrecord => ?_) fun hplain => ?_
    · cases (hends.1 hrecord).2
    · exact hdots.elim hplain.2.dot hplain.2.dots
  next hnot =>
  obtain ⟨hdot, hdots⟩ := not_or.1 hnot
  have hplain : IsPlain name ↔ visible name = name.toList :=
    ⟨fun hp => (visible_eq_toList_iff name).2 hp.visible,
      fun hv => ⟨(visible_eq_toList_iff name).1 hv, hdot, hdots⟩⟩
  rw [hplain]
  -- behind a step the last segment is empty
  split
  · next hup =>
    refine iff_of_false (ne_recordSegments_of_empty d _ name hname) fun hv => hdots ?_
    exact String.toList_inj.1 (hv.2.symm.trans hup)
  split
  · next hstay =>
    refine iff_of_false (ne_recordSegments_of_empty d _ name hname) fun hv => hdot ?_
    exact String.toList_inj.1 (hv.2.symm.trans hstay)
  · -- no step: the last segment is decoded to what is visible of the name
    rw [append_eq_recordSegments_iff, List.map_singleton, decode_encode_visible, List.singleton_inj]
    refine and_congr_right fun _ => ⟨fun hencode => ?_, fun hv => hv ▸ rfl⟩
    have hbytes : Text.Utf8.bytes (String.ofList (visible name)) = Text.Utf8.bytes name := by
      rw [Text.Utf8.bytes, String.toList_ofList, hencode]
    have hseen : String.ofList (visible name) = name := Text.Utf8.bytes_injective hbytes
    exact String.toList_ofList.symm.trans (congrArg String.toList hseen)

/-- The URL that `ofConfig` takes for the API server can be the base of others. -/
theorem cannotBeABase_of_ofConfig (trust : Trust) (files : Files) (c : KubernetesConfig)
    (h : ofConfig trust files c = .ok d) : d.base.cannotBeABase = false := by
  obtain ⟨base, -, h⟩ := Except.bind_eq_ok_iff.1 h
  cases hrelative : base.cannotBeABase with
  | true =>
    rw [hrelative] at h
    cases h
  | false =>
    rw [hrelative, if_neg Bool.false_ne_true] at h
    -- a file of certificates changes nothing about the URL
    split at h
    · cases h
      exact hrelative
    split at h
    · cases h
    split at h
    · cases h
    · cases h
      exact hrelative

/-- What the lookup URLs of the directory `d` tell apart. -/
structure NamesRecords : Prop where
  /-- A name leads to its record exactly if it is plain, unless a segment of the API server is lost. -/
  record : ∀ name, name ≠ "" → (d.NamesRecord name ↔ d.base.segments ≠ ["", ""] ∧ IsPlain name)
  /-- A plain name always stands behind the segments of the collection, so it leads neither to the list
  of all records nor out of it. -/
  below : ∀ name, IsPlain name → (d.resourceUrl name).segments.map Url.decode =
    d.collectionSegments.map Url.decode ++ [Text.Utf8.bytes name]
  /-- No two plain names share a URL. -/
  apart : ∀ m n, IsPlain m → IsPlain n → d.resourceUrl m = d.resourceUrl n → m = n

/-- In every directory that `ofConfig` sets up, the lookup URL names the record of each plain name. -/
theorem namesRecords_of_ofConfig (trust : Trust) (files : Files) (c : KubernetesConfig)
    (h : ofConfig trust files c = .ok d) : d.NamesRecords := by
  have hbase := cannotBeABase_of_ofConfig d trust files c h
  have hbelow (name : String) (hname : IsPlain name) :
      (d.resourceUrl name).segments.map Url.decode =
        d.collectionSegments.map Url.decode ++ [Text.Utf8.bytes name] := by
    rw [segments_of_isPlain d hbase name hname, List.map_append, List.map_singleton,
      decode_encode_visible]
    rfl
  refine ⟨namesRecord_iff d hbase, hbelow, fun m n hm hn hurl => ?_⟩
  -- the URL of a plain name tells the name, as its last segment is decoded to it
  have hsegments := hbelow m hm
  rw [hurl, hbelow n hn, List.append_cancel_left_eq, List.singleton_inj] at hsegments
  exact (Text.Utf8.bytes_injective hsegments).symm

/-- A configuration with an API server that is reached at a path of a proxy. -/
def proxiedServer : KubernetesConfig where
  apiServer := "https://api.example.com/proxy/"
  tokenFile := none
  caFile := none

/-- The directory that `ofConfig` sets up for `proxiedServer`. -/
def proxied : KubernetesDirectory where
  base := {
    scheme := "https"
    authority := some { host := some (.domain "api.example.com") }
    path := .segments ["proxy", ""] }
  tokenFile := none

theorem ofConfig_proxied (trust : Trust) : ofConfig trust {} proxiedServer = .ok proxied := by
  have hbase : (Url.parse proxiedServer.apiServer).toOption = some proxied.base := by decide +kernel
  rw [ofConfig, Except.eq_ok_of_toOption hbase]
  rfl

theorem namesRecords_proxied : proxied.NamesRecords ∧ proxied.NamesRecord "a/b %2e" :=
  have hnames := namesRecords_of_ofConfig proxied (fun _ => .ok ()) {} proxiedServer (ofConfig_proxied _)
  have hplain : IsPlain "a/b %2e" :=
    ⟨(visible_eq_toList_iff "a/b %2e").1 (by decide), by decide, by decide⟩
  ⟨hnames, (hnames.record "a/b %2e" (by decide)).2 ⟨by decide, hplain⟩⟩

/-- Names that a URL does not see as they are get a `resourceUrl` of the list of all records, of what
is above it or of the record of another name. -/
theorem resourceUrl_proxied_strays :
    (∀ trust, ofConfig trust {} proxiedServer = .ok proxied) ∧ ¬proxied.NamesRecord "." ∧
      (proxied.resourceUrl ".").render = "https://api.example.com/proxy/apis/applicationconnector.kyma-project.io/v1alpha1/applications" ∧
      (proxied.resourceUrl "..\t").render = "https://api.example.com/proxy/apis/applicationconnector.kyma-project.io/v1alpha1/" ∧
      proxied.resourceUrl "a\tb" = proxied.resourceUrl "ab" := by
  refine ⟨ofConfig_proxied, ?_, ?_, ?_, ?_⟩ <;> decide +kernel

end KubernetesDirectory

end CertGate
