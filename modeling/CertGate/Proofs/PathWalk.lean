import CertGate.Proofs.EncodedSegments

/-!
# Walking along a path

The first segment of a path as a URL reads it is the one that a walk along the path as it was sent
starts from in the end. The walk keeps no segments but the first one: it counts how far below that one
it stands, and starts anew when it comes out above it. A file path has two rules more. The empty
segments that it starts with do not count, and there is no way up from a drive.

## Key results

- `follows_step`: a walk keeps step with the segments that are read
- `follows_walk`: so it stands where they are in the end
- `decode_first_segment_iff`: what the first segment that is read stands for
- `walk_first_of_staysBelow`: a path that does not come out above its first segment keeps it
-/

namespace CertGate.Url

/-- Where a walk stands: behind `blanks` empty segments, at its first segment, and `depth` segments
below that one. -/
structure Walk where
  blanks : Nat := 0
  first : Option (List Char) := none
  depth : Nat := 0
  deriving DecidableEq, Repr

namespace Walk

/-- Goes down into `segment`. The first one may be the name of a drive, which gets its colon. -/
def down (isFile : Bool) (w : Walk) (segment : List Char) : Walk :=
  match w.first with
  | some _ => { w with depth := w.depth + 1 }
  | none =>
    if isFile && segment.isEmpty then { w with blanks := w.blanks + 1 }
    else { w with first := some (normalDrive isFile (List.replicate w.blanks "") segment) }

/-- Takes a step up. A drive that stands alone, which `driveOf?` gives, is not left. -/
def up (isFile : Bool) (w : Walk) : Walk :=
  match w.first, w.depth with
  | none, _ => { w with blanks := w.blanks - 1 }
  | some _, depth + 1 => { w with depth }
  | some first, 0 =>
    if w.blanks = 0 ∧ (driveOf? isFile [String.ofList first]).isSome then w
    else { w with first := none }

/-- Passes one segment: `up`, nowhere or `down`. -/
def step (isFile : Bool) (w : Walk) (segment : List Char) : Walk :=
  if isDoubleDot segment then w.up isFile
  else if isSingleDot segment then w
  else w.down isFile segment

end Walk

/-- Whether a segment is `..` or `.`, in any spelling. -/
def isStep (segment : List Char) : Bool :=
  isDoubleDot segment || isSingleDot segment

/-- The segments of a path, with an empty one behind a step at the end. So `pushSegment` need not know
which segment is the last. -/
def closeSteps : List (List Char) → List (List Char)
  | [] => []
  | [s] => if isStep s then [s, []] else [s]
  | s :: t :: rest => s :: closeSteps (t :: rest)

/-- The walk along a path that is read behind its first slash, with one `Walk.step` for each segment. -/
def walk (scheme : String) (cs : List Char) : Walk :=
  (closeSteps (cutAtSlashes (isSpecialScheme scheme) cs)).foldl (Walk.step (scheme == "file")) {}

/-! ## Steps at the end -/

/-- The empty segment is no drive: `normalDrive` leaves it. -/
theorem normalDrive_nil (isFile : Bool) (done : List String) : normalDrive isFile done [] = [] := by
  unfold normalDrive
  split
  · next h => cases h
  · rfl

/-- `pushSegment` takes the empty segment as it is. -/
theorem pushSegment_nil (isFile : Bool) (done : List String) :
    pushSegment isFile done [] false = done ++ [""] := by
  have hdouble : isDoubleDot [] = false := by decide
  have hsingle : isSingleDot [] = false := by decide
  simp only [pushSegment, hdouble, hsingle, normalDrive_nil, Bool.false_eq_true, if_false]

/-- A last segment is pushed as any other one, and an empty one follows if it is a step, by `isStep`. -/
theorem pushSegment_last (isFile : Bool) (done : List String) (s : List Char) :
    pushSegment isFile done s true =
      pushSegment isFile done s false ++ (if isStep s then [""] else []) := by
  unfold pushSegment isStep
  by_cases hdouble : isDoubleDot s = true
  · simp only [hdouble, if_true, Bool.true_or, Bool.false_eq_true, if_false, List.append_nil]
  · by_cases hsingle : isSingleDot s = true
    · simp only [hdouble, hsingle, if_true, Bool.or_true, Bool.false_eq_true, if_false,
        List.append_nil]
    · simp only [hdouble, hsingle, Bool.or_self, Bool.false_eq_true, if_false, List.append_nil]

/-- Pushing segments is a fold over `closeSteps`, in which no segment is the last. -/
theorem pushSegments_eq_foldl (isFile : Bool) (done : List String) (ss : List (List Char)) :
    pushSegments isFile done ss =
      (closeSteps ss).foldl (fun done s => pushSegment isFile done s false) done := by
  fun_induction pushSegments isFile done ss with
  | case1 => rfl
  | case2 done s =>
    -- the last segment
    rw [pushSegment_last, closeSteps]
    split
    · rw [List.foldl_cons, List.foldl_cons, List.foldl_nil, pushSegment_nil]
    · rw [List.append_nil, List.foldl_cons, List.foldl_nil]
  | case3 done s rest hrest ih =>
    cases rest with
    | nil => exact absurd rfl hrest
    | cons t rest => exact ih

/-- `closeSteps` commutes with `encode`, which neither makes nor hides a step. -/
theorem closeSteps_map_encode (ss : List (List Char)) :
    closeSteps (ss.map (encode .path)) = (closeSteps ss).map (encode .path) := by
  fun_induction closeSteps ss with
  | case1 => rfl
  -- a step at the end
  | case2 s hs =>
    have hs' : isStep (encode .path s) = true := by
      rw [isStep, isDoubleDot_encode, isSingleDot_encode]
      exact hs
    simp only [List.map_cons, List.map_nil, closeSteps, hs', if_true]
    rfl
  -- no step at the end
  | case3 s hs =>
    have hs' : ¬isStep (encode .path s) = true := by
      rw [isStep, isDoubleDot_encode, isSingleDot_encode]
      exact hs
    simp only [List.map_cons, List.map_nil, closeSteps, if_neg hs']
  | case4 s t rest ih =>
    simp only [List.map_cons] at ih ⊢
    rw [closeSteps, ih]

/-! ## Keeping step -/

/-- `Follows isFile done w`: the walk `w` stands where the segments `done` are that have been read,
above them all (`above`) or below the first that is not blank (`below`). Only a file path has blanks. -/
inductive Follows (isFile : Bool) : List String → Walk → Prop where
  | above (blanks : Nat) (hblanks : isFile = false → blanks = 0) :
    Follows isFile (List.replicate blanks "") ⟨blanks, none, 0⟩
  | below (blanks : Nat) (first : List Char) (rest : List String)
      (hblanks : isFile = false → blanks = 0) (hfirst : isFile = true → first ≠ []) :
    Follows isFile (List.replicate blanks "" ++ String.ofList (encode .path first) :: rest)
      ⟨blanks, some first, rest.length⟩

/-- `shorten` drops the last segment, unless it stands alone. -/
theorem shorten_of_length (isFile : Bool) (done : List String) (h : done.length ≠ 1) :
    shorten isFile done = done.dropLast := by
  have hdrive : driveOf? isFile done = none := by
    unfold driveOf?
    split
    · exact absurd rfl h
    · rfl
  rw [shorten, hdrive]
  rfl

/-- `shorten` of blanks drops one: none of them is a drive. -/
theorem shorten_replicate (isFile : Bool) (blanks : Nat) :
    shorten isFile (List.replicate blanks "") = List.replicate (blanks - 1) "" := by
  by_cases hone : blanks = 1
  · rw [hone]
    cases isFile <;> decide
  · rw [shorten_of_length isFile _ (by rwa [List.length_replicate]), List.dropLast_replicate]

/-- `Follows` is kept by a step up. -/
theorem follows_up (isFile : Bool) (done : List String) (w : Walk) (h : Follows isFile done w) :
    Follows isFile (shorten isFile done) (w.up isFile) := by
  cases h with
  | above blanks hblanks =>
    rw [shorten_replicate]
    exact .above (blanks - 1) fun hfile => by rw [hblanks hfile]
  | below blanks first rest hblanks hfirst =>
    cases rest with
    | cons t rest =>
      rw [shorten_of_length isFile _ (by simp only [List.length_append, List.length_cons]; omega),
        List.dropLast_append_of_ne_nil (List.cons_ne_nil _ _)]
      have hbelow := Follows.below blanks first (t :: rest).dropLast hblanks hfirst
      rwa [List.length_dropLast] at hbelow
    | nil =>
      by_cases hblank : blanks = 0
      · -- only here can a drive stand alone
        subst hblank
        simp only [shorten, List.replicate_zero, List.nil_append, driveOf?_encode, List.length_nil,
          Walk.up, true_and]
        split
        · exact .below 0 first [] hblanks hfirst
        · exact .above 0 hblanks
      · -- blanks stand before the first segment, so it is no drive
        rw [shorten_of_length isFile _ (by
          simp only [List.length_append, List.length_replicate, List.length_cons, List.length_nil]
          omega), List.dropLast_concat]
        simp only [List.length_nil, Walk.up, hblank, false_and, if_false]
        exact .above blanks hblanks

/-- What `normalDrive` makes of a segment is not empty unless the segment is. -/
theorem normalDrive_ne_nil (isFile : Bool) (done : List String) (s : List Char) (hs : s ≠ []) :
    normalDrive isFile done s ≠ [] := by
  unfold normalDrive
  split
  · exact List.cons_ne_nil _ _
  · exact hs

/-- `Follows` is kept by a step down. -/
theorem follows_down (isFile : Bool) (done : List String) (w : Walk) (s : List Char)
    (h : Follows isFile done w) :
    Follows isFile (done ++ [String.ofList (normalDrive isFile done (encode .path s))])
      (w.down isFile s) := by
  rw [normalDrive_encode]
  cases h with
  | above blanks hblanks =>
    -- an empty segment at the start of a file path is one more to be dropped
    by_cases hblank : (isFile && s.isEmpty) = true
    · simp only [Walk.down, hblank, if_true]
      rw [Bool.and_eq_true, List.isEmpty_iff] at hblank
      obtain ⟨hfile, rfl⟩ := hblank
      have hempty : String.ofList (encode .path []) = "" := rfl
      rw [normalDrive_nil, hempty, ← List.replicate_succ']
      exact .above (blanks + 1) fun hnot => absurd hfile (by rw [hnot]; exact Bool.false_ne_true)
    · -- any other segment is the first one, and the walk stands at it
      simp only [Walk.down, hblank]
      refine .below blanks _ [] hblanks fun hfile => ?_
      refine normalDrive_ne_nil isFile _ s fun hs => hblank ?_
      rw [hfile, hs]
      rfl
  | below blanks first rest hblanks hfirst =>
    -- below a first segment only the depth changes
    rw [List.append_assoc, List.cons_append]
    have hbelow := Follows.below blanks first (rest ++ [String.ofList (encode .path
      (normalDrive isFile (List.replicate blanks "" ++ String.ofList (encode .path first) :: rest) s))])
      hblanks hfirst
    rw [List.length_append] at hbelow
    exact hbelow

/-- `Follows` is kept by every segment. -/
theorem follows_step (isFile : Bool) (done : List String) (w : Walk) (s : List Char)
    (h : Follows isFile done w) :
    Follows isFile (pushSegment isFile done (encode .path s) false) (w.step isFile s) := by
  unfold pushSegment Walk.step
  rw [isDoubleDot_encode, isSingleDot_encode]
  split
  · rw [if_neg Bool.false_ne_true, List.append_nil]
    exact follows_up isFile done w h
  · split
    · rw [if_neg Bool.false_ne_true, List.append_nil]
      exact h
    · exact follows_down isFile done w s h

/-- `Follows` is kept by all segments of a path. -/
theorem follows_foldl (isFile : Bool) (done : List String) (w : Walk) (ss : List (List Char))
    (h : Follows isFile done w) :
    Follows isFile ((ss.map (encode .path)).foldl (fun done s => pushSegment isFile done s false) done)
      (ss.foldl (Walk.step isFile) w) := by
  induction ss generalizing done w with
  | nil => exact h
  | cons s ss ih => exact ih _ _ (follows_step isFile done w s h)

/-! ## The first segment -/

/-- `dropEmptyStart` drops blanks before another segment. -/
theorem dropEmptyStart_replicate_append (blanks : Nat) (s : String) (rest : List String) (hs : s ≠ "") :
    dropEmptyStart (List.replicate blanks "" ++ s :: rest) = s :: rest := by
  induction blanks with
  | zero =>
    rw [List.replicate_zero, List.nil_append, dropEmptyStart]
    intro s' ss h
    -- no blanks: the segment itself is not empty
    exact absurd (List.cons.inj h).1 hs
  | succ n ih =>
    rw [List.replicate_succ, List.cons_append]
    cases n with
    | zero => exact ih
    | succ m => exact ih

/-- `dropEmptyStart` of blanks leaves at most a blank. -/
theorem eq_of_mem_dropEmptyStart_replicate (blanks : Nat) (s : String)
    (h : s ∈ dropEmptyStart (List.replicate blanks "")) : s = "" := by
  induction blanks with
  | zero => cases h
  | succ n ih =>
    cases n with
    | zero => exact List.mem_singleton.1 h
    | succ m => exact ih h

/-- Where the walk has a first segment, the segments that are read start with it, once `dropEmptyStart`
has passed. -/
theorem head?_of_follows (isFile : Bool) (done : List String) (w : Walk) (first : List Char)
    (h : Follows isFile done w) (hfirst : w.first = some first) :
    (if isFile then dropEmptyStart done else done).head? = some (String.ofList (encode .path first)) := by
  cases h with
  | above blanks hblanks => cases hfirst
  | below blanks first' rest hblanks hne =>
    cases hfirst
    cases isFile with
    -- no file path, so there are no blanks to drop
    | false =>
      rw [hblanks rfl]
      rfl
    | true =>
      have hwritten : String.ofList (encode .path first) ≠ "" := by
        rw [Ne, ← String.toList_inj, String.toList_ofList]
        exact mt (encode_eq_nil_iff .path first).1 (hne rfl)
      rw [if_pos rfl, dropEmptyStart_replicate_append blanks _ rest hwritten]
      rfl

/-- Where `w.first` is none, the segments that are read start with a blank or not at all. -/
theorem eq_of_head?_of_follows (isFile : Bool) (done : List String) (w : Walk) (s : String)
    (h : Follows isFile done w) (hfirst : w.first = none)
    (hs : (if isFile then dropEmptyStart done else done).head? = some s) : s = "" := by
  cases h with
  | below blanks first' rest hblanks hne => cases hfirst
  | above blanks hblanks =>
    have hmem := List.mem_of_head? hs
    cases isFile with
    | false =>
      rw [hblanks rfl] at hmem
      cases hmem
    | true => exact eq_of_mem_dropEmptyStart_replicate blanks s hmem

/-- `walk` `Follows` the segments of the path. -/
theorem follows_walk (scheme : String) (cs : List Char) :
    Follows (scheme == "file")
      (pushSegments (scheme == "file") []
        ((cutAtSlashes (isSpecialScheme scheme) cs).map (encode .path)))
      (walk scheme cs) := by
  rw [pushSegments_eq_foldl, closeSteps_map_encode]
  exact follows_foldl (scheme == "file") [] {} _ (.above 0 fun _ => rfl)

/-- The first segment of a path, as it is read, stands for `bytes` exactly if the first one of the
`walk` does. -/
theorem decode_first_segment_iff (scheme : String) (cs : List Char) (bytes : List UInt8)
    (hbytes : bytes ≠ []) :
    (∃ s, (readSegments scheme cs).head? = some s ∧ decode s = bytes) ↔
      ∃ first, (walk scheme cs).first = some first ∧
        decodeBytes (Text.Utf8.encode first) = bytes := by
  have hfollows := follows_walk scheme cs
  have hdecode : ∀ first, decode (String.ofList (encode .path first)) =
      decodeBytes (Text.Utf8.encode first) := fun first => by
    rw [decode, Text.Utf8.bytes, String.toList_ofList,
      decodeBytes_encode .path PercentSet.keepsEscapes_path]
  constructor
  · rintro ⟨s, hs, hbytes'⟩
    cases hfirst : (walk scheme cs).first with
    -- above all segments there is at most an empty one, which stands for no bytes
    | none =>
      have hempty := eq_of_head?_of_follows _ _ _ s hfollows hfirst hs
      rw [hempty] at hbytes'
      exact absurd hbytes'.symm hbytes
    | some first =>
      have hhead := head?_of_follows _ _ _ first hfollows hfirst
      have heq : s = String.ofList (encode .path first) := Option.some.inj (hs.symm.trans hhead)
      exact ⟨first, rfl, by rw [← hdecode, ← heq, hbytes']⟩
  · rintro ⟨first, hfirst, hbytes'⟩
    have hhead := head?_of_follows _ _ _ first hfollows hfirst
    exact ⟨_, hhead, by rw [hdecode, hbytes']⟩

/-! ## Paths that do not come out above their first segment -/

/-- At `depth` below a first segment, no step of the rest goes up further than the segments before it
went down. -/
def StaysBelow : Nat → List (List Char) → Prop
  | _, [] => True
  | depth, s :: ss =>
    if isDoubleDot s then 0 < depth ∧ StaysBelow (depth - 1) ss
    else if isSingleDot s then StaysBelow depth ss
    else StaysBelow (depth + 1) ss

/-- `StaysBelow` does not mind the empty segment behind a step at the end. -/
theorem staysBelow_closeSteps (depth : Nat) (ss : List (List Char)) (h : StaysBelow depth ss) :
    StaysBelow depth (closeSteps ss) := by
  -- a slash at the end is a segment that goes neither up nor down
  have hempty : ∀ depth, StaysBelow depth [[]] := fun depth => by
    rw [StaysBelow, if_neg (by decide), if_neg (by decide)]
    trivial
  fun_induction closeSteps ss generalizing depth with
  | case1 => exact h
  | case2 s hs =>
    -- the last segment is a step, behind which a slash is put
    rw [StaysBelow] at h ⊢
    split
    · next hdouble =>
      rw [if_pos hdouble] at h
      exact ⟨h.1, hempty _⟩
    · split
      · exact hempty _
      · exact hempty _
  | case3 s hs => exact h
  | case4 s t rest ih =>
    -- the first segment stays what it is, so the depth behind it does
    rw [StaysBelow] at h ⊢
    split
    · next hdouble =>
      rw [if_pos hdouble] at h
      exact ⟨h.1, ih _ h.2⟩
    · next hdouble =>
      rw [if_neg hdouble] at h
      split
      · next hsingle =>
        rw [if_pos hsingle] at h
        exact ih _ h
      · next hsingle =>
        rw [if_neg hsingle] at h
        exact ih _ h

/-- A walk that `StaysBelow` its first segment keeps it. -/
theorem first_foldl_of_staysBelow (isFile : Bool) (w : Walk) (first : List Char)
    (ss : List (List Char)) (hfirst : w.first = some first) (h : StaysBelow w.depth ss) :
    (ss.foldl (Walk.step isFile) w).first = some first := by
  induction ss generalizing w with
  | nil => exact hfirst
  | cons s ss ih =>
    rw [StaysBelow] at h
    rw [List.foldl_cons, Walk.step]
    split
    · next hdouble =>
      -- a step up
      rw [if_pos hdouble] at h
      obtain ⟨hpos, hrest⟩ := h
      -- there is a segment to come up from, so the first one stays
      obtain ⟨blanks, first', depth⟩ := w
      cases hfirst
      cases depth with
      | zero => exact absurd hpos (Nat.lt_irrefl 0)
      | succ depth => exact ih _ rfl hrest
    · next hdouble =>
      rw [if_neg hdouble] at h
      split
      · next hsingle =>
        -- a step that stays
        rw [if_pos hsingle] at h
        exact ih w hfirst h
      · next hsingle =>
        -- a segment to go down into
        rw [if_neg hsingle] at h
        obtain ⟨blanks, first', depth⟩ := w
        cases hfirst
        exact ih _ rfl h

/-- Without backslashes only slashes part segments, as in `pieces`, whatever the scheme. -/
theorem cutAtSlashes_of_no_backslash (special : Bool) (cs : List Char) (h : '\\' ∉ cs) :
    cutAtSlashes special cs = Text.pieces '/' cs := by
  have hsame : ∀ c ∈ cs, (if isSlash special c then '/' else c) = id c := by
    intro c hc
    have hne : c ≠ '\\' := fun heq => h (heq ▸ hc)
    by_cases hslash : c = '/'
    · rw [hslash, if_pos (by simp [isSlash])]
      rfl
    · rw [if_neg (by simp [isSlash, hslash, hne])]
      rfl
  rw [cutAtSlashes, List.map_congr_left hsame, List.map_id]

/-- `walk` along a path that `StaysBelow` its first segment ends with it. File paths are left out,
where a first segment may be a blank. -/
theorem walk_first_of_staysBelow (scheme : String) (hfile : (scheme == "file") = false)
    (cs first : List Char) (ss : List (List Char)) (hne : ss ≠ [])
    (hcut : cutAtSlashes (isSpecialScheme scheme) cs = first :: ss) (hstep : isStep first = false)
    (h : StaysBelow 0 ss) : (walk scheme cs).first = some first := by
  -- there is more behind the first segment, so it is not closed
  have hclose : closeSteps (first :: ss) = first :: closeSteps ss := by
    cases ss with
    | nil => exact absurd rfl hne
    | cons s ss => rfl
  rw [isStep, Bool.or_eq_false_iff] at hstep
  have hdown : Walk.step false {} first = ⟨0, some first, 0⟩ := by
    rw [Walk.step, if_neg (by rw [hstep.1]; exact Bool.false_ne_true),
      if_neg (by rw [hstep.2]; exact Bool.false_ne_true)]
    rfl
  rw [walk, hcut, hclose, List.foldl_cons, hfile, hdown]
  exact first_foldl_of_staysBelow false _ first _ rfl (staysBelow_closeSteps 0 ss h)

end CertGate.Url
