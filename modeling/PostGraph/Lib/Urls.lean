import Mathlib.Data.List.DropRight
import Mathlib.Data.List.Flatten
import PostGraph.Lib.Percent

/-!
How an absolute URL is read whose scheme is special, as https is. Blanks at the ends are
dropped, and tabs and line ends anywhere; the fragment is cut off at the first '#',
the query at the first '?'; the path is split at the slashes, of which '\' is one, and
escaped, and its dot segments are resolved, which may themselves be escaped. The host
stays as it is written. The main result says when a text formatted between two
literal segments is one segment of the path that stands for it (`reads_between_iff`).
-/
namespace Urls
set_option autoImplicit false

structure Url where
  authority : List Char
  path : List (List Char)
  query : Option (List Char)
  fragment : Option (List Char)
  deriving DecidableEq

def blank (c : Char) : Bool := c ≤ ' '
def dropped (c : Char) : Bool := c = '\t' || c = '\n' || c = '\r'
def slash (c : Char) : Bool := c = '/' || c = '\\'

/-- The characters that are escaped in a path. -/
def escaped (c : Char) : Bool := c ≤ ' ' || '~' < c || c ∈ "\"#<>?^`\x7b\x7d".toList

def stripped (text : List Char) : List Char := ((text.dropWhile blank).rdropWhile blank).filter fun c => !dropped c

/-- The text before the first `mark`, and the text after it if there is one. -/
def cutAt (mark : Char) : List Char → List Char × Option (List Char)
  | [] => ([],none)
  | c :: rest => if c = mark then ([],some rest) else (c :: (cutAt mark rest).1,(cutAt mark rest).2)

/-- A segment that stands for '.' or for '..'. -/
def isDot (segment : List Char) : Bool := Percent.decode segment = [46]
def isDots (segment : List Char) : Bool := Percent.decode segment = [46,46]

def push (done : List (List Char)) (segment : List Char) : List (List Char) :=
  if isDot segment then done else if isDots segment then done.dropLast else done ++ [segment]

/-- The path with its dot segments resolved; one at the end leaves an empty segment. -/
def resolve (segments : List (List Char)) : List (List Char) :=
  let done := segments.foldl push []
  if segments.getLast?.any fun last => isDot last || isDots last then done ++ [[]] else done

def read (text : List Char) : Url :=
  let (text,fragment) := cutAt '#' (stripped text)
  let (text,query) := cutAt '?' text
  -- behind the scheme and its slashes
  let text := (text.dropWhile fun c => c ≠ ':').tail.dropWhile slash
  ⟨text.takeWhile fun c => !slash c,
    resolve (((text.dropWhile fun c => !slash c).tail.splitOnP slash).map (Percent.escape escaped)),query,fragment⟩

/-! ### Fragment and query -/

theorem cutAt_absent {mark : Char} {text : List Char} (absent : mark ∉ text) : cutAt mark text = (text,none) := by
  induction text with
  | nil => rfl
  | cons c rest ih =>
    obtain ⟨other,later⟩ : mark ≠ c ∧ mark ∉ rest := by simpa using absent
    simp [cutAt,ih later,Ne.symm other]

theorem cutAt_present {mark : Char} {text : List Char} (present : mark ∈ text) : (cutAt mark text).2 ≠ none := by
  induction text with
  | nil => simp at present
  | cons c rest ih =>
    by_cases same : c = mark
    · simp [cutAt,same]
    · have later : mark ∈ rest := by simpa [Ne.symm same] using present
      simpa [cutAt,same] using ih later

/-- A character that is no blank is not stripped. -/
theorem mem_stripped {c : Char} {text : List Char} (solid : blank c = false) (present : c ∈ text) : c ∈ stripped text := by
  have left : c ∈ text.dropWhile blank := by
    rw [← List.takeWhile_append_dropWhile (p := blank) (l := text)] at present
    rcases List.mem_append.mp present with taken | kept
    · exact absurd (List.mem_takeWhile_imp taken) (by simp [solid])
    · exact kept
  have both : c ∈ (text.dropWhile blank).rdropWhile blank := by
    rw [← List.rdropWhile_append_rtakeWhile (p := blank) (l := text.dropWhile blank)] at left
    rcases List.mem_append.mp left with kept | taken
    · exact kept
    · exact absurd (List.mem_rtakeWhile_imp taken) (by simp [solid])
  refine List.mem_filter.mpr ⟨both,?_⟩
  have other : dropped c = false := by
    unfold dropped
    simp only [Bool.or_eq_false_iff,decide_eq_false_iff_not]
    refine ⟨⟨?_,?_⟩,?_⟩ <;> rintro rfl <;> exact absurd solid (by decide)
  simp [other]

/-- A URL without query and fragment holds neither mark. -/
theorem unmarked {text : List Char} (query : (read text).query = none) (fragment : (read text).fragment = none) :
    '?' ∉ text ∧ '#' ∉ text := by
  have hash : '#' ∉ stripped text := fun present => cutAt_present present fragment
  refine ⟨fun present => ?_,fun present => hash (mem_stripped (by decide) present)⟩
  simp only [read,cutAt_absent hash] at query
  exact cutAt_present (mem_stripped (by decide) present) query

/-! ### Segments -/

/-- A character that is read as it is written, wherever it stands behind the scheme. -/
def literal (c : Char) : Bool := !(escaped c || slash c || c = '%')

structure Literal (segment : List Char) : Prop where
  some : segment ≠ []
  plain : segment.all literal = true
  dot : segment ≠ ['.']
  dots : segment ≠ ['.','.']

/-- The texts that stay one segment, and stand for themselves there. -/
structure Segment (text : List Char) : Prop where
  some : text ≠ []
  plain : ∀ c ∈ text, c ∉ "/\\?#\t\n\r".toList
  unescaped : Percent.Unescaped text
  dot : text ≠ ['.']
  dots : text ≠ ['.','.']

section
variable {c : Char} {segment text : List Char}

theorem literal_kept (plain : literal c = true) : escaped c = false ∧ slash c = false ∧ c ≠ '%' := by
  simpa [literal,and_assoc] using plain

theorem literal_solid (plain : literal c = true) : blank c = false := by
  have kept := (literal_kept plain).1
  simp only [escaped,Bool.or_eq_false_iff] at kept
  exact kept.1.1

/-- Escapes are left as they are written. -/
theorem spares_escapes (c : Char) (held : escaped c = true) : c ≠ '%' ∧ Percent.value c = none := by
  constructor
  · rintro rfl
    exact absurd held (by decide)
  · by_contra digit
    obtain ⟨above,below⟩ := Percent.value_range digit
    simp only [escaped,Bool.or_eq_true,decide_eq_true_eq] at held
    rcases held with (low | high) | one
    · exact low.not_gt above
    · exact high.not_gt below
    · have each : ("\"#<>?^`\x7b\x7d".toList.all fun c => Percent.value c = none) = true := by decide
      exact digit (of_decide_eq_true (List.all_eq_true.mp each c one))

theorem decode_segment (segment : List Char) : Percent.decode (Percent.escape escaped segment) = Percent.decode segment :=
  Percent.decode_escape spares_escapes segment

theorem dropped_blank (gone : dropped c = true) : blank c = true := by
  simp only [dropped,Bool.or_eq_true,decide_eq_true_eq] at gone
  rcases gone with (rfl | rfl) | rfl <;> decide

theorem Literal.single (plain : Literal segment) : Segment segment where
  some := plain.some
  plain := by
    intro c member marked
    have kept := List.all_eq_true.mp plain.plain c member
    have each : ("/\\?#\t\n\r".toList.all fun c => !literal c) = true := by decide
    exact absurd kept (by simpa using List.all_eq_true.mp each c marked)
  unescaped := Percent.unescaped_of_absent fun member => (literal_kept (List.all_eq_true.mp plain.plain '%' member)).2.2 rfl
  dot := plain.dot
  dots := plain.dots

theorem Segment.no_slash (single : Segment text) (member : c ∈ text) : slash c = false := by
  have plain := single.plain c member
  simp only [slash,Bool.or_eq_false_iff,decide_eq_false_iff_not]
  constructor <;> rintro rfl <;> exact plain (by decide)

theorem Segment.kept (single : Segment text) : text.filter (fun c => !dropped c) = text := by
  refine List.filter_eq_self.mpr fun c member => ?_
  have plain := single.plain c member
  simp only [dropped,Bool.not_eq_true',Bool.or_eq_false_iff,decide_eq_false_iff_not]
  refine ⟨⟨?_,?_⟩,?_⟩ <;> rintro rfl <;> exact plain (by decide)

/-- A segment that stands for itself is no dot segment. -/
theorem Segment.not_dots (single : Segment text) :
    isDot (Percent.escape escaped text) = false ∧ isDots (Percent.escape escaped text) = false := by
  have decoded : Percent.decode (Percent.escape escaped text) = Utf8.encode text := by
    rw [decode_segment,Percent.decode_eq_iff.mpr single.unescaped]
  simp only [isDot,isDots,decoded,decide_eq_false_iff_not]
  exact ⟨fun same => single.dot (Utf8.encode_injective same),fun same => single.dots (Utf8.encode_injective same)⟩

end

/-! ### Resolving -/

section
variable {segments : List (List Char)} {s : List Char}

theorem resolve_plain (plain : ∀ s ∈ segments, isDot s = false ∧ isDots s = false) : resolve segments = segments := by
  have fold : ∀ segments done : List (List Char), (∀ s ∈ segments, isDot s = false ∧ isDots s = false) →
      segments.foldl push done = done ++ segments := by
    intro segments
    induction segments with
    | nil => intro done _; simp
    | cons s rest ih =>
      intro done plain
      obtain ⟨dot,dots⟩ := plain s (by simp)
      rw [List.foldl_cons,ih _ fun s' member => plain s' (by simp [member])]
      simp [push,dot,dots]
  have last : (segments.getLast?.any fun last => isDot last || isDots last) = false := by
    cases known : segments.getLast? with
    | none => rfl
    | some last => simp [plain last (List.mem_of_getLast? known)]
  rw [resolve,fold segments [] plain,List.nil_append,last]
  rfl

theorem mem_foldl_push {done : List (List Char)} (member : s ∈ segments.foldl push done) :
    s ∈ done ∨ s ∈ segments ∧ isDot s = false ∧ isDots s = false := by
  induction segments generalizing done with
  | nil => exact .inl member
  | cons segment rest ih =>
    rcases ih member with early | ⟨late,plain⟩
    · unfold push at early
      split_ifs at early with dot dots
      · exact .inl early
      · exact .inl ((List.dropLast_sublist done).subset early)
      · rcases List.mem_append.mp early with old | new
        · exact .inl old
        · obtain rfl := List.mem_singleton.mp new
          exact .inr ⟨by simp,by simpa using dot,by simpa using dots⟩
    · exact .inr ⟨by simp [late],plain⟩

/-- Resolving invents no segment but the empty one, and leaves no dot segment. -/
theorem mem_resolve (member : s ∈ resolve segments) (some : s ≠ []) :
    s ∈ segments ∧ isDot s = false ∧ isDots s = false := by
  have folded : s ∈ segments.foldl push [] := by
    unfold resolve at member
    split_ifs at member <;> simpa [some] using member
  simpa using mem_foldl_push folded

end

/-! ### URLs that are written from segments -/

def written (scheme host : List Char) (segments : List (List Char)) : List Char :=
  scheme ++ ':' :: '/' :: '/' :: (host ++ segments.flatMap ('/' :: ·))

/-- An absolute URL of literal segments. -/
structure Base where
  scheme : List Char
  host : List Char
  segments : List (List Char)
  scheme_literal : scheme.all literal = true
  scheme_ends : ':' ∉ scheme
  host_literal : host.all literal = true
  host_some : host ≠ []
  segments_literal : ∀ segment ∈ segments, Literal segment
  segments_some : segments ≠ []

def Base.text (self : Base) : List Char := written self.scheme self.host self.segments

section
variable {base : Base} {segments : List (List Char)}

theorem splitOnP_segments (some : segments ≠ []) :
    (segments.flatMap ('/' :: ·)).tail.splitOnP slash = segments.flatMap (·.splitOnP slash) := by
  induction segments with
  | nil => exact absurd rfl some
  | cons s rest ih =>
    cases rest with
    | nil => simp
    | cons s' rest =>
      have later := ih (by simp)
      rw [List.flatMap_cons,List.flatMap_cons,List.cons_append,List.tail_cons]
      rw [List.flatMap_cons,List.cons_append,List.tail_cons] at later
      rw [List.flatMap_cons,List.cons_append,List.splitOnP_append_cons _ _ (by decide),later]

/-- The characters of a URL that do not come from its segments are read as they are. -/
theorem written_stripped (last : ∀ c ∈ (written base.scheme base.host segments).getLast?, blank c = false) :
    stripped (written base.scheme base.host segments) =
      written base.scheme base.host (segments.map (·.filter fun c => !dropped c)) := by
  have solid {c : Char} (plain : literal c = true) : (!dropped c) = true := by
    cases gone : dropped c with
    | false => rfl
    | true => exact absurd (dropped_blank gone) (by simp [literal_solid plain])
  have first : (written base.scheme base.host segments).dropWhile blank = written base.scheme base.host segments := by
    unfold written
    cases scheme : base.scheme with
    | nil => rfl
    | cons c rest =>
      have plain := List.all_eq_true.mp base.scheme_literal c (by simp [scheme])
      simp [literal_solid plain]
  have ends : (written base.scheme base.host segments).rdropWhile blank = written base.scheme base.host segments := by
    refine List.rdropWhile_eq_self_iff.mpr fun some => ?_
    simp [last _ (List.getLast?_eq_some_getLast some)]
  have scheme : base.scheme.filter (fun c => !dropped c) = base.scheme :=
    List.filter_eq_self.mpr fun c member => solid (List.all_eq_true.mp base.scheme_literal c member)
  have host : base.host.filter (fun c => !dropped c) = base.host :=
    List.filter_eq_self.mpr fun c member => solid (List.all_eq_true.mp base.host_literal c member)
  have marks : dropped ':' = false ∧ dropped '/' = false := by decide
  rw [stripped,first,ends,written,List.filter_append,scheme]
  simp [written,marks,host,List.filter_flatMap,List.flatMap_map]

theorem not_mem_written {mark : Char} (other : literal mark = false) (colon : mark ≠ ':') (bar : mark ≠ '/')
    (absent : mark ∉ segments.flatten) (base : Base) :
    mark ∉ written base.scheme base.host (segments.map (·.filter fun c => !dropped c)) := by
  have plain {c : Char} (kept : literal c = true) : mark ≠ c := by
    rintro rfl
    exact absurd kept (by simp [other])
  have scheme : mark ∉ base.scheme := fun member => plain (List.all_eq_true.mp base.scheme_literal mark member) rfl
  have host : mark ∉ base.host := fun member => plain (List.all_eq_true.mp base.host_literal mark member) rfl
  have texts : mark ∉ (segments.map (·.filter fun c => !dropped c)).flatMap ('/' :: ·) := by
    intro member
    obtain ⟨written,there,here⟩ := List.mem_flatMap.mp member
    obtain ⟨segment,known,rfl⟩ := List.mem_map.mp there
    rcases List.mem_cons.mp here with same | inside
    · exact bar same
    · exact absent (List.mem_flatten.mpr ⟨segment,known,List.mem_of_mem_filter inside⟩)
  simp [written,scheme,host,texts,colon,bar]

theorem read_written (some : segments ≠ []) (question : '?' ∉ segments.flatten) (hash : '#' ∉ segments.flatten)
    (last : ∀ c ∈ (written base.scheme base.host segments).getLast?, blank c = false) :
    read (written base.scheme base.host segments) =
      ⟨base.host,resolve ((segments.flatMap fun s => (s.filter fun c => !dropped c).splitOnP slash).map
        (Percent.escape escaped)),none,none⟩ := by
  have hash' := not_mem_written (by decide) (by decide) (by decide) hash
  have question' := not_mem_written (by decide) (by decide) (by decide) question
  obtain ⟨c,host,named⟩ := List.exists_cons_of_ne_nil base.host_some
  have plain (c : Char) (member : c ∈ base.host) : (!slash c) = true := by
    simp [(literal_kept (List.all_eq_true.mp base.host_literal c member)).2.1]
  have opens : slash c = false := by simpa using plain c (by simp [named])
  have behind (rest : List Char) : (((base.scheme ++ ':' :: '/' :: '/' :: (base.host ++ rest)).dropWhile
      fun c => c ≠ ':').tail.dropWhile slash) = base.host ++ rest := by
    have early (c : Char) (member : c ∈ base.scheme) : decide (c ≠ ':') = true := by
      simpa using ne_of_mem_of_not_mem member base.scheme_ends
    rw [List.dropWhile_append_of_pos early,named]
    simp [slash,show ¬ c = '/' ∧ ¬ c = '\\' by simpa [slash] using opens]
  obtain ⟨kept,same⟩ : ∃ kept, segments.map (·.filter fun c => !dropped c) = kept := ⟨_,rfl⟩
  have front : (kept.flatMap ('/' :: ·)).takeWhile (fun c => !slash c) = [] ∧
      (kept.flatMap ('/' :: ·)).dropWhile (fun c => !slash c) = kept.flatMap ('/' :: ·) := by
    obtain ⟨first,rest,rfl⟩ := List.exists_cons_of_ne_nil some
    simp [← same,slash]
  have pieces : (kept.flatMap ('/' :: ·)).tail.splitOnP slash = kept.flatMap (·.splitOnP slash) :=
    splitOnP_segments (by simpa [← same] using some)
  simp only [read,written_stripped last,cutAt_absent (hash' base),cutAt_absent (question' base)]
  rw [same,written,behind,List.takeWhile_append_of_pos plain,List.dropWhile_append_of_pos plain,front.1,front.2,pieces,
    List.append_nil,← same,List.flatMap_map]

/-- A URL of segments that stand for themselves has these on its path. -/
theorem read_segments (single : ∀ s ∈ segments, Segment s) (some : segments ≠ [])
    (last : ∀ c ∈ (written base.scheme base.host segments).getLast?, blank c = false) :
    read (written base.scheme base.host segments) = ⟨base.host,segments.map (Percent.escape escaped),none,none⟩ := by
  have absent {mark : Char} (marked : mark ∈ "/\\?#\t\n\r".toList) : mark ∉ segments.flatten := by
    intro member
    obtain ⟨s,known,inside⟩ := List.mem_flatten.mp member
    exact (single s known).plain mark inside marked
  have pieces : (segments.flatMap fun s => (s.filter fun c => !dropped c).splitOnP slash) = segments := by
    calc (segments.flatMap fun s => (s.filter fun c => !dropped c).splitOnP slash)
      _ = segments.flatMap fun s => [s] := by
        refine List.flatMap_congr fun s member => ?_
        rw [(single s member).kept,List.splitOnP_eq_singleton fun c => (single s member).no_slash]
      _ = segments := List.flatMap_singleton' segments
  rw [read_written some (absent (by decide)) (absent (by decide)) last,pieces,resolve_plain]
  intro piece member
  obtain ⟨s,known,rfl⟩ := List.mem_map.mp member
  exact (single s known).not_dots

theorem Literal.escape {segment : List Char} (plain : Literal segment) : Percent.escape escaped segment = segment :=
  Percent.escape_id fun c member => (literal_kept (List.all_eq_true.mp plain.plain c member)).1

theorem Base.segments_escape (self : Base) : self.segments.map (Percent.escape escaped) = self.segments :=
  (List.map_congr_left fun s member => (self.segments_literal s member).escape).trans (List.map_id _)

theorem written_last {last : List Char} (front : List (List Char)) (plain : Literal last) :
    ∀ c ∈ (written base.scheme base.host (front ++ [last])).getLast?, blank c = false := by
  have ends : written base.scheme base.host (front ++ [last]) =
      (base.scheme ++ ':' :: '/' :: '/' :: (base.host ++ front.flatMap ('/' :: ·)) ++ ['/']) ++ last := by
    simp [written]
  intro c member
  rw [ends,List.getLast?_append_of_ne_nil _ plain.some] at member
  exact literal_solid (List.all_eq_true.mp plain.plain c (List.mem_of_getLast? member))

theorem read_base (base : Base) : read base.text = ⟨base.host,base.segments,none,none⟩ := by
  obtain ⟨front,last,split⟩ := (List.eq_nil_or_concat base.segments).resolve_left base.segments_some
  rw [List.concat_eq_append] at split
  have plain : Literal last := base.segments_literal last (by simp [split])
  have ends : ∀ c ∈ (written base.scheme base.host base.segments).getLast?, blank c = false := by
    rw [split]
    exact written_last front plain
  rw [Base.text,read_segments (fun s member => (base.segments_literal s member).single) base.segments_some ends,
    base.segments_escape]

/-- A base, a literal segment, a formatted text and a last literal segment. -/
def between (base before text after : List Char) : List Char :=
  base ++ '/' :: (before ++ '/' :: (text ++ '/' :: after))

theorem between_written {before text after : List Char} : between base.text before text after =
    written base.scheme base.host (base.segments ++ [before,text] ++ [after]) := by
  simp [between,Base.text,written]

end

/-- A piece of a text that stands for the whole of it is the whole, and holds no escape. -/
theorem whole_of_decode {piece text : List Char} (part : piece.Sublist text)
    (stands : Percent.decode piece = Utf8.encode text) : piece = text ∧ Percent.Unescaped text := by
  have bytes : (Utf8.encode piece).Sublist (Utf8.encode text) := part.flatMap _
  have long : (Utf8.encode text).length ≤ (Utf8.encode piece).length := stands ▸ Percent.length_decode_le piece
  have same : piece = text := Utf8.encode_injective (bytes.eq_of_length_le long)
  exact ⟨same,Percent.decode_eq_iff.mp (same ▸ stands)⟩

theorem piece_sublist {piece text : List Char} (member : piece ∈ text.splitOnP slash) :
    piece.Sublist text ∧ ∀ c ∈ piece, slash c = false := by
  induction text generalizing piece with
  | nil =>
    obtain rfl : piece = [] := by simpa using member
    exact ⟨.slnil,nofun⟩
  | cons c rest ih =>
    rw [List.splitOnP_cons_eq_if_modifyHead] at member
    split_ifs at member with mark
    · rcases List.mem_cons.mp member with rfl | later
      · exact ⟨List.nil_sublist _,nofun⟩
      · exact ⟨(ih later).1.cons c,(ih later).2⟩
    · obtain ⟨head,tail,pieces⟩ := List.exists_cons_of_ne_nil (List.splitOnP_ne_nil slash rest)
      rw [pieces,List.modifyHead_cons] at member
      rcases List.mem_cons.mp member with rfl | later
      · obtain ⟨part,plain⟩ := ih (show head ∈ rest.splitOnP slash by simp [pieces])
        exact ⟨part.cons_cons c,List.forall_mem_cons.mpr ⟨by simpa using mark,plain⟩⟩
      · obtain ⟨part,plain⟩ := ih (show piece ∈ rest.splitOnP slash by simp [pieces,later])
        exact ⟨part.cons c,plain⟩

/-- A text is a segment if one piece of what is left of it stands for the whole. -/
theorem segment_of_piece {piece text : List Char} (question : '?' ∉ text) (hash : '#' ∉ text)
    (member : piece ∈ (text.filter fun c => !dropped c).splitOnP slash)
    (plain : isDot (Percent.escape escaped piece) = false ∧ isDots (Percent.escape escaped piece) = false)
    (some : Percent.escape escaped piece ≠ []) (stands : Percent.decode piece = Utf8.encode text) : Segment text := by
  obtain ⟨part,slashes⟩ := piece_sublist member
  obtain ⟨rfl,unescaped⟩ := whole_of_decode (part.trans List.filter_sublist) stands
  have kept : piece.filter (fun c => !dropped c) = piece :=
    List.filter_sublist.eq_of_length_le part.length_le
  simp only [isDot,isDots,decode_segment,stands,decide_eq_false_iff_not] at plain
  refine ⟨?_,?_,unescaped,?_,?_⟩
  · rintro rfl
    exact some rfl
  · intro c member marked
    have solid : dropped c = false := by simpa using List.filter_eq_self.mp kept c member
    have straight := slashes c member
    have each : ("/\\?#\t\n\r".toList.all fun c => slash c = true ∨ dropped c = true ∨ c = '?' ∨ c = '#') = true := by
      decide
    rcases of_decide_eq_true (List.all_eq_true.mp each c marked) with bar | gone | rfl | rfl
    · exact absurd bar (by simp [straight])
    · exact absurd gone (by simp [solid])
    · exact question member
    · exact hash member
  · rintro rfl
    exact plain.1 rfl
  · rintro rfl
    exact plain.2 rfl

section
variable {base : Base} {before text after : List Char}

theorem of_written_segment (opening : Literal before) (closing : Literal after) {s : List Char}
    (member : s ∈ base.segments ++ [before,text] ++ [after]) : s = text ∨ Literal s := by
  simp only [List.mem_append,List.mem_cons,List.not_mem_nil,or_false] at member
  rcases member with (known | rfl | rfl) | rfl
  · exact .inr (base.segments_literal s known)
  · exact .inr opening
  · exact .inl rfl
  · exact .inr closing

/-- Between two literal segments a segment is read as it is escaped. -/
theorem read_between (opening : Literal before) (closing : Literal after) (single : Segment text) :
    read (between base.text before text after) =
      ⟨base.host,base.segments ++ [before,Percent.escape escaped text,after],none,none⟩ := by
  have singles : ∀ s ∈ base.segments ++ [before,text] ++ [after], Segment s := by
    intro s member
    rcases of_written_segment opening closing member with rfl | plain
    · exact single
    · exact plain.single
  rw [between_written,read_segments singles (by simp) (written_last (base.segments ++ [before,text]) closing)]
  simp [base.segments_escape,opening.escape,closing.escape]

/-- A segment on the path that stands for a text comes from the text itself, or is a literal
    that reads the same. -/
theorem segment_of_path {segment : List Char} (opening : Literal before) (closing : Literal after)
    (query : (read (between base.text before text after)).query = none)
    (fragment : (read (between base.text before text after)).fragment = none) (some : segment ≠ [])
    (stands : Percent.decode segment = Utf8.encode text)
    (member : segment ∈ (read (between base.text before text after)).path) : Segment text := by
  obtain ⟨question,hash⟩ := unmarked query fragment
  have questionText : '?' ∉ text := fun present => question (by simp [between,present])
  have hashText : '#' ∉ text := fun present => hash (by simp [between,present])
  have absent {mark : Char} (other : literal mark = false) (free : mark ∉ text) :
      mark ∉ (base.segments ++ [before,text] ++ [after]).flatten := by
    intro member
    obtain ⟨s,known,inside⟩ := List.mem_flatten.mp member
    rcases of_written_segment opening closing known with rfl | plain
    · exact free inside
    · exact absurd (List.all_eq_true.mp plain.plain mark inside) (by simp [other])
  rw [between_written,read_written (by simp) (absent (by decide) questionText) (absent (by decide) hashText)
    (written_last (base.segments ++ [before,text]) closing)] at member
  obtain ⟨held,dot,dots⟩ := mem_resolve member some
  obtain ⟨piece,there,rfl⟩ := List.mem_map.mp held
  rw [decode_segment] at stands
  obtain ⟨s,known,inside⟩ := List.mem_flatMap.mp there
  rcases of_written_segment opening closing known with rfl | plain
  · exact segment_of_piece questionText hashText inside ⟨dot,dots⟩ some stands
  · rw [plain.single.kept,List.splitOnP_eq_singleton fun c => plain.single.no_slash] at inside
    obtain rfl := List.mem_singleton.mp inside
    rw [Percent.decode_eq_iff.mpr plain.single.unescaped] at stands
    exact Utf8.encode_injective stands ▸ plain.single

/-- A text formatted between two literal segments is read as one segment of the path that
    stands for it, with no query and no fragment, exactly when it is a segment. -/
theorem reads_between_iff (opening : Literal before) (closing : Literal after) :
    ((read (between base.text before text after)).authority = (read base.text).authority ∧
      (read (between base.text before text after)).query = none ∧
      (read (between base.text before text after)).fragment = none ∧
      ∃ segment, segment ≠ [] ∧ Percent.decode segment = Utf8.encode text ∧
        (read (between base.text before text after)).path = (read base.text).path ++ [before,segment,after]) ↔
      Segment text := by
  constructor
  · rintro ⟨-,query,fragment,segment,some,stands,path⟩
    exact segment_of_path opening closing query fragment some stands (by simp [path])
  · intro single
    have stands : Percent.decode (Percent.escape escaped text) = Utf8.encode text := by
      rw [decode_segment,Percent.decode_eq_iff.mpr single.unescaped]
    rw [read_base,read_between opening closing single]
    refine ⟨rfl,rfl,rfl,Percent.escape escaped text,?_,stands,rfl⟩
    intro none
    rw [none] at stands
    exact single.some (Utf8.encode_injective stands.symm)

end

example : read "https://h/v1/users/x\\..\\%2E%2e\\.\t.\\me you?/sendMail".toList =
    ⟨['h'],["me%20you".toList],some "/sendMail".toList,none⟩ := by decide +kernel

end Urls
