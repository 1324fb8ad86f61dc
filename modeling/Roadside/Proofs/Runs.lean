import Roadside.CommandLine
import Roadside.Proofs.Incidences
import Roadside.Proofs.Layout
import Roadside.Proofs.NearestNodes
import Roadside.Proofs.OpenStreetMap.Geometry
import Roadside.Proofs.Phrases
import Roadside.Proofs.Wishes

/-!
# Runs

A run with arguments ends with directions or with a failure. Several things may be in the way of the directions at the
same time (`Obstacle`), and what decides is the first of them in a fixed order (`Failure.rank`).

* **Reading goes step by step** (`Request.ofArguments_cases`): each argument that is read leaves later obstacles only.
* **The map decides, then the query** (`Reads.ends`): on a map with nodes the index finds the one closest to the query,
  and this node is known to the map, so that only a query off the globe has no directions.
* **The beginning of a message tells what was in the way** (`Complaint.rankOfText_append`), and so does a report that
  begins with it (`Complaint.report_ne`).
* **What comes first decides** (`run_ends`), also whether a file is asked for.
-/

namespace Roadside.CommandLine

/-! ## Files -/

/-- The files that can be asked for: what the path of each leads to, and how long it takes to have its map. -/
structure Files where
  elements : String → Except MapFault (List OpenStreetMap.Element)
  seconds : String → Float

namespace Files

/-- The map in a file. -/
def map (files : Files) (path : String) : Except MapFault (RoadMap Float) := do
  let (map, _) ← OpenStreetMap.roadMap (← files.elements path)
  return map

/-- Asks for the map in a file and writes down the path. -/
def load (files : Files) (path : String) : StateM (List String) Loading :=
  modifyGet fun asked => (⟨files.map path, files.seconds path⟩, asked ++ [path])

/-- What a run shows, and the paths that it asks for. -/
def run (files : Files) (index : Index Float) (report : Report) (arguments : List String) : Outcome × List String :=
  (CommandLine.run index report files.load arguments).run []

/-- The lines that say what has been loaded from some paths. -/
def loadedLines (files : Files) (paths : List String) : List String :=
  paths.filterMap fun path => (files.map path).toOption.map fun map =>
    "Loaded " ++ toString map.nodeCount ++ " nodes, " ++ toString map.edgeCount ++ " edges in " ++
      Decimal.fixedPlaces 2 (files.seconds path) ++ " s"

theorem loadedLines_of_error {files : Files} {path : String} {fault : MapFault} (h : files.map path = .error fault) :
    files.loadedLines [path] = [] := by
  rw [loadedLines, List.filterMap_cons_none (by rw [h]; rfl), List.filterMap_nil]

theorem loadedLines_of_ok {files : Files} {path : String} {map : RoadMap Float} (h : files.map path = .ok map) :
    files.loadedLines [path] = [loadedLine map (files.seconds path)] := by
  rw [loadedLines, List.filterMap_cons_some (by rw [h]; rfl), List.filterMap_nil]
  rfl

theorem exists_elements (files : Files) {path : String} {map : RoadMap Float} (h : files.map path = .ok map) :
    ∃ elements notices, files.elements path = .ok elements ∧ OpenStreetMap.roadMap elements = .ok (map, notices) := by
  obtain ⟨elements, held, loaded⟩ := OpenStreetMap.exists_of_bind_eq_ok h
  obtain ⟨⟨_, notices⟩, made, same⟩ := OpenStreetMap.exists_of_bind_eq_ok loaded
  cases same
  exact ⟨elements, notices, held, made⟩

theorem length_loadedLines_le (files : Files) (paths : List String) :
    (files.loadedLines paths).length ≤ paths.length := List.length_filterMap_le ..

variable (files : Files) (index : Index Float) (report : Report) {arguments : List String}

theorem run_of_error {f : Failure} (h : Request.ofArguments arguments = .error f) :
    files.run index report arguments = (.failure report [] f, []) := by
  rw [run, CommandLine.run, h]
  rfl

theorem run_of_ok {r : Request} (h : Request.ofArguments arguments = .ok r) : files.run index report arguments =
    (r.outcome index report ⟨files.map r.path, files.seconds r.path⟩, [r.path]) := by
  rw [run, CommandLine.run, h]
  rfl

end Files

/-! ## Obstacles -/

/-- What is in the way of directions, whether or not a run comes so far as to see it. -/
inductive Obstacle (files : Files) (arguments : List String) : Failure → Prop
  | usage (few : arguments.length < 3) : Obstacle files arguments .usage
  | latitude {text : String} {fault : Decimal.LiteralFault} (here : arguments[1]? = some text)
      (unread : Decimal.floatOfText text = .error fault) : Obstacle files arguments (.latitude fault)
  | longitude {text : String} {fault : Decimal.LiteralFault} (here : arguments[2]? = some text)
      (unread : Decimal.floatOfText text = .error fault) : Obstacle files arguments (.longitude fault)
  | preference {text : String} (here : arguments[3]? = some text)
      (unread : ∀ preference : Preference, (Preference.ofText text : Except (Fault Float) _) ≠ .ok preference) :
      Obstacle files arguments (.request (.unknownPreference (String.ofList (Text.trim text.toList))))
  | map {path : String} {fault : MapFault} (here : arguments[0]? = some path) (failed : files.map path = .error fault) :
      Obstacle files arguments (.map fault)
  | noNodes {path : String} {map : RoadMap Float} (here : arguments[0]? = some path) (loaded : files.map path = .ok map)
      (empty : map.nodeCount = 0) : Obstacle files arguments .noNodes
  | offGlobe {lat lon : String} {x y : Float} (hlat : arguments[1]? = some lat) (hlon : arguments[2]? = some lon)
      (readLat : Decimal.floatOfText lat = .ok x) (readLon : Decimal.floatOfText lon = .ok y)
      (off : (⟨x, y⟩ : Point Float).isOnGlobe = false) : Obstacle files arguments (.request (.offGlobe ⟨x, y⟩))

/-- The place of a failure in the order in which they are found out. -/
def Failure.rank : Failure → Nat
  | .usage => 0
  | .latitude _ => 1
  | .longitude _ => 2
  | .request (.unknownPreference _) => 3
  | .map _ => 4
  | .noNodes => 5
  | .request _ => 6

/-- The failure is due to the arguments alone. -/
def Failure.isOfArguments (f : Failure) : Bool := f.rank < 4

/-- The obstacle that comes first. -/
structure FirstObstacle (files : Files) (arguments : List String) (f : Failure) : Prop where
  obstacle : Obstacle files arguments f
  rank_le : ∀ g, Obstacle files arguments g → f.rank ≤ g.rank

/-- The arguments are read as a request. -/
structure Reads (arguments : List String) (r : Request) : Prop where
  path : arguments[0]? = some r.path
  latitude : ∃ text, arguments[1]? = some text ∧ Decimal.floatOfText text = .ok r.query.lat
  longitude : ∃ text, arguments[2]? = some text ∧ Decimal.floatOfText text = .ok r.query.lon
  preference : (Preference.ofText (arguments[3]?.getD "") : Except (Fault Float) _) = .ok r.preference

section Obstacles

variable {files : Files} {arguments : List String} {f g : Failure} {r : Request}

/-- There are no two obstacles of one rank. -/
theorem Obstacle.eq_of_rank_eq (hf : Obstacle files arguments f) (hg : Obstacle files arguments g)
    (same : f.rank = g.rank) : f = g := by
  cases hf <;> cases hg <;> simp [Failure.rank] at same
  case usage.usage => rfl
  case latitude.latitude here unread _ _ here' unread' =>
    obtain rfl := Option.some.inj (here.symm.trans here')
    rw [Except.error.inj (unread.symm.trans unread')]
  case longitude.longitude here unread _ _ here' unread' =>
    obtain rfl := Option.some.inj (here.symm.trans here')
    rw [Except.error.inj (unread.symm.trans unread')]
  case preference.preference here _ _ here' _ => rw [Option.some.inj (here.symm.trans here')]
  case map.map here failed _ _ here' failed' =>
    obtain rfl := Option.some.inj (here.symm.trans here')
    rw [Except.error.inj (failed.symm.trans failed')]
  case noNodes.noNodes => rfl
  case offGlobe.offGlobe hlat hlon lat lon _ _ _ _ _ hlat' hlon' lat' lon' _ =>
    obtain rfl := Option.some.inj (hlat.symm.trans hlat')
    obtain rfl := Option.some.inj (hlon.symm.trans hlon')
    rw [Except.ok.inj (lat.symm.trans lat'), Except.ok.inj (lon.symm.trans lon')]

/-- What comes first is determined. -/
theorem FirstObstacle.eq (hf : FirstObstacle files arguments f) (hg : FirstObstacle files arguments g) : f = g :=
  hf.obstacle.eq_of_rank_eq hg.obstacle (Nat.le_antisymm (hf.rank_le g hg.obstacle) (hg.rank_le f hf.obstacle))

/-! ### Reading the arguments step by step leaves later and later obstacles -/

theorem Obstacle.rank_pos (h : Obstacle files arguments g) (enough : 3 ≤ arguments.length) : 0 < g.rank := by
  cases h
  case usage few => omega
  all_goals simp [Failure.rank]

theorem Obstacle.one_lt_rank {text : String} {x : Float} (h : Obstacle files arguments g) (pos : 0 < g.rank)
    (here : arguments[1]? = some text) (read : Decimal.floatOfText text = .ok x) : 1 < g.rank := by
  cases h
  case latitude here' unread =>
    obtain rfl := Option.some.inj (here.symm.trans here')
    cases read.symm.trans unread
  case usage => cases pos
  all_goals simp [Failure.rank]

theorem Obstacle.two_lt_rank {text : String} {x : Float} (h : Obstacle files arguments g) (one_lt : 1 < g.rank)
    (here : arguments[2]? = some text) (read : Decimal.floatOfText text = .ok x) : 2 < g.rank := by
  cases h
  case longitude here' unread =>
    obtain rfl := Option.some.inj (here.symm.trans here')
    cases read.symm.trans unread
  all_goals simp [Failure.rank] at one_lt ⊢

theorem Obstacle.three_lt_rank {preference : Preference} (h : Obstacle files arguments g) (two_lt : 2 < g.rank)
    (read : (Preference.ofText (arguments[3]?.getD "") : Except (Fault Float) _) = .ok preference) : 3 < g.rank := by
  cases h
  case preference here unread =>
    rw [here] at read
    exact absurd read (unread preference)
  all_goals simp [Failure.rank] at two_lt ⊢

/-- Arguments that are read leave the obstacles that a file brings about and the query off the globe. -/
theorem Reads.three_lt_rank (h : Reads arguments r) (o : Obstacle files arguments g) : 3 < g.rank := by
  obtain ⟨_, hlat, lat⟩ := h.latitude
  obtain ⟨_, hlon, lon⟩ := h.longitude
  have enough : 3 ≤ arguments.length := (List.getElem?_eq_some_iff.1 hlon).1
  exact o.three_lt_rank (o.two_lt_rank (o.one_lt_rank (o.rank_pos enough) hlat lat) hlon lon) h.preference

end Obstacles

/-! ## Reading the arguments -/

/-- The arguments are read, or what comes first is one of them. -/
theorem Request.ofArguments_cases (files : Files) (arguments : List String) :
    (∃ r, ofArguments arguments = .ok r ∧ Reads arguments r) ∨
      ∃ f, ofArguments arguments = .error f ∧ FirstObstacle files arguments f ∧ f.isOfArguments = true := by
  match arguments with
  | [] | [_] | [_, _] => exact .inr ⟨.usage, rfl, ⟨.usage (by simp), fun _ _ => Nat.zero_le _⟩, rfl⟩
  | path :: lat :: lon :: rest =>
    have pos {g : Failure} (o : Obstacle files (path :: lat :: lon :: rest) g) : 0 < g.rank :=
      o.rank_pos (by simp)
    cases hlat : Decimal.floatOfText lat with
    | error fault =>
      refine .inr ⟨.latitude fault, ?_, ⟨.latitude rfl hlat, fun g o => pos o⟩, rfl⟩
      rw [ofArguments, hlat]
      rfl
    | ok x =>
      have one_lt {g : Failure} (o : Obstacle files (path :: lat :: lon :: rest) g) : 1 < g.rank :=
        o.one_lt_rank (pos o) rfl hlat
      cases hlon : Decimal.floatOfText lon with
      | error fault =>
        refine .inr ⟨.longitude fault, ?_, ⟨.longitude rfl hlon, fun g o => one_lt o⟩, rfl⟩
        rw [ofArguments, hlat, hlon]
        rfl
      | ok y =>
        have two_lt {g : Failure} (o : Obstacle files (path :: lat :: lon :: rest) g) : 2 < g.rank :=
          o.two_lt_rank (one_lt o) rfl hlon
        cases hpref : (Preference.ofText (rest.head?.getD "") : Except (Fault Float) _) with
        | error fault =>
          obtain rfl := Preference.ofText_eq_error hpref
          match rest, hpref with
          | fourth :: _, hpref =>
            have unread : ∀ preference, (Preference.ofText fourth : Except (Fault Float) _) ≠ .ok preference :=
              fun preference read => nomatch hpref.symm.trans read
            refine .inr ⟨_, ?_, ⟨.preference rfl unread, fun g o => two_lt o⟩, rfl⟩
            rw [ofArguments, hlat, hlon, hpref]
            rfl
        | ok preference =>
          refine .inl ⟨⟨path, ⟨x, y⟩, preference⟩, ?_, ⟨rfl, ⟨lat, rfl, hlat⟩, ⟨lon, rfl, hlon⟩, ?_⟩⟩
          · rw [ofArguments, hlat, hlon, hpref]
            rfl
          · rw [← hpref]
            cases rest <;> rfl

/-! ## Answers -/

section Answers

variable {index : Index Float} {report : Report} {r : Request} {map : RoadMap Float}

theorem Request.respond_noNodes (finds : index.FindsClosest map.entries r.query) (empty : map.nodeCount = 0) :
    r.respond index map = .error .noNodes := by
  rw [respond, finds.nearest?_eq_none_iff.2 empty]

theorem Request.respond_of_nearest {node : NodeId} (nearest : index.nearest? map r.query = some node) :
    r.respond index map =
      ((resolve map.view map.allows .standard node r.query).mapError .request).map (node, ·) := by
  rw [respond, nearest]

theorem Request.respond_offGlobe (finds : index.FindsClosest map.entries r.query) (nodes : map.nodeCount ≠ 0)
    (off : r.query.isOnGlobe = false) : r.respond index map = .error (.request (.offGlobe r.query)) := by
  obtain ⟨node, nearest⟩ := Option.ne_none_iff_exists'.1 (mt finds.nearest?_eq_none_iff.1 nodes)
  have refused : resolve map.view map.allows .standard node r.query = .error (.offGlobe r.query) := by
    rw [resolve_eq, Point.checked, off]
    rfl
  rw [respond_of_nearest nearest, refused]
  rfl

/-- A node that is near is known, so a query on the globe has directions there. -/
theorem Request.respond_onGlobe (finds : index.FindsClosest map.entries r.query) (nodes : map.nodeCount ≠ 0)
    (on : r.query.isOnGlobe = true) : ∃ node directions, index.nearest? map r.query = some node ∧
      resolve map.view map.allows .standard node r.query = .ok directions ∧
      r.respond index map = .ok (node, directions) := by
  obtain ⟨node, nearest⟩ := Option.ne_none_iff_exists'.1 (mt finds.nearest?_eq_none_iff.1 nodes)
  obtain ⟨position, known⟩ := RoadMap.exists_position? (finds.index_lt_of_nearest? nearest)
  obtain ⟨directions, resolved⟩ : ∃ d, resolve map.view map.allows .standard node r.query = .ok d :=
    ⟨_, resolve_eq_ok_iff.2 ⟨on, position, known, rfl⟩⟩
  refine ⟨node, directions, nearest, resolved, ?_⟩
  rw [respond_of_nearest nearest, resolved]
  rfl

theorem Request.outcome_of_respond_error {seconds : Float} {f : Failure} (h : r.respond index map = .error f) :
    r.outcome index report ⟨.ok map, seconds⟩ = .failure report [loadedLine map seconds] f := by
  simp only [outcome, h]

theorem Request.outcome_of_respond_ok {seconds : Float} {node : NodeId} {directions : Directions}
    (h : r.respond index map = .ok (node, directions)) :
    r.outcome index report ⟨.ok map, seconds⟩ = .success (loadedLine map seconds :: r.lines node directions) := by
  simp only [outcome, h]

/-- The node is never unknown. -/
theorem Request.respond_ne_unknownNode (finds : index.FindsClosest map.entries r.query) (node : NodeId) :
    r.respond index map ≠ .error (.request (.unknownNode node)) := by
  by_cases empty : map.nodeCount = 0
  · rw [respond_noNodes finds empty]
    nofun
  · cases on : r.query.isOnGlobe with
    | false =>
      rw [respond_offGlobe finds empty on]
      nofun
    | true =>
      obtain ⟨_, _, -, -, answered⟩ := respond_onGlobe finds empty on
      rw [answered]
      nofun

end Answers

/-! ## Messages -/

/-- What is said of the failures that something in the way brings about, and what is behind them. -/
inductive Complaint : Failure → String → Option String → Prop
  | usage : Complaint .usage "usage: curbside <file.osm.pbf> <lat> <lon> [right|left|any]" none
  | latitude (fault : Decimal.LiteralFault) :
      Complaint (.latitude fault) "latitude is not a number" (some fault.message)
  | longitude (fault : Decimal.LiteralFault) :
      Complaint (.longitude fault) "longitude is not a number" (some fault.message)
  | preference (text : String) : Complaint (.request (.unknownPreference text))
      ("parse error: unknown curbside '" ++ text ++ "', allowed: right, left, any") none
  | unknownNode (node : NodeId) :
      Complaint (.map (.unknownNode node)) ("node " ++ nodeName node ++ " not found in network") none
  | unreadable (reason : String) (code : Nat) : Complaint (.map (.unreadable reason code))
      ("I/O error: " ++ (reason ++ " (os error " ++ toString code ++ ")"))
      (some (reason ++ " (os error " ++ toString code ++ ")"))
  | malformed (reason : String) : Complaint (.map (.malformed reason)) ("OSM parse error: " ++ reason) none
  | noNodes : Complaint .noNodes "network has no nodes" none
  | offGlobe (point : Point Float) :
      Complaint (.request (.offGlobe point)) ("invalid coordinate " ++ placeName point) none

theorem Obstacle.complaint {files : Files} {arguments : List String} {f : Failure} (h : Obstacle files arguments f) :
    Complaint f f.message f.cause? := by
  cases h
  case usage => exact .usage
  case latitude => exact .latitude _
  case longitude => exact .longitude _
  case preference => exact .preference _
  case noNodes => exact .noNodes
  case offGlobe => exact .offGlobe _
  case map fault _ _ =>
    cases fault with
    | unknownNode => exact .unknownNode _
    | unreadable => exact .unreadable _ _
    | malformed => exact .malformed _

/-- The rank of a failure as the first two letters of its message tell it. -/
def rankOfText : List Char → Nat
  | 'u' :: 's' :: _ => 0
  | 'l' :: 'a' :: _ => 1
  | 'l' :: 'o' :: _ => 2
  | 'p' :: 'a' :: _ => 3
  | 'n' :: 'e' :: _ => 5
  | 'i' :: 'n' :: _ => 6
  | _ => 4

namespace Complaint

variable {f g : Failure} {message message' : String} {cause? cause?' : Option String}

/-- Whatever follows a message, its beginning tells what was in the way. -/
theorem rankOfText_append (h : Complaint f message cause?) (rest : String) :
    rankOfText (message ++ rest).toList = f.rank := by
  cases h
  all_goals
    simp only [String.toList_append]
    rfl

/-- A report that begins with the message tells what was in the way. -/
theorem report_ne {report : Report} (begins : report.BeginsWithMessage) (hf : Complaint f message cause?)
    (hg : Complaint g message' cause?') (apart : f.rank ≠ g.rank) :
    report message cause? ≠ report message' cause?' := by
  intro same
  obtain ⟨_, ofF⟩ := begins message cause?
  obtain ⟨_, ofG⟩ := begins message' cause?'
  rw [ofF, ofG] at same
  exact apart ((hf.rankOfText_append _).symm.trans (same ▸ hg.rankOfText_append _))

end Complaint

/-! ## Outcomes -/

/-- A text filled up with blanks. -/
def filled (width : Nat) (text : String) : String := String.ofList (text.toList.rightpad width ' ')

/-- What the table shows for a demand. -/
inductive IsEntry : Demand → String → Prop
  | any : IsEntry .any "any"
  | forbidden : IsEntry .forbidden "forbidden"
  | exactly (edge : EdgeId) : IsEntry (.exactly edge) (edgeName edge)

theorem isEntry_text (demand : Demand) : IsEntry demand demand.text := by
  cases demand with
  | any => exact .any
  | forbidden => exact .forbidden
  | exactly edge => exact .exactly edge

/-- The lines that show an answer: the directions, and a row of the table with an entry for arriving and one for
leaving. -/
def answerLines (r : Request) (node : NodeId) (directions : Directions) (arrive depart : String) : List String :=
  [nodeName node ++ " @ " ++ placeName r.query ++ ": " ++ directions.text,
    filled 26 (placeName r.query) ++ " " ++ filled 11 (nodeName node) ++ " " ++ filled 6 r.preference.text ++ " " ++
      filled 12 arrive ++ " " ++ filled 12 depart]

theorem Request.lines_eq (r : Request) (node : NodeId) (directions : Directions) : r.lines node directions =
    answerLines r node directions (directions.arrival r.preference).text (directions.departure r.preference).text := rfl

/-- This is how a run ends that asks for these paths. -/
structure Ends (files : Files) (index : Index Float) (report : Report) (arguments : List String) (outcome : Outcome)
    (asked : List String) : Prop where
  first_or_none : (∃ f, FirstObstacle files arguments f) ∨ ∀ f, ¬Obstacle files arguments f
  /-- What comes first decides. -/
  failure : ∀ f, FirstObstacle files arguments f → ∃ message cause?, Complaint f message cause? ∧
    outcome = ⟨files.loadedLines asked, ["Error: " ++ report message cause?], 1⟩
  /-- The error is not that of anything else that can be in the way. -/
  told : ∀ f, FirstObstacle files arguments f → ∀ g message cause?, Complaint g message cause? → f.rank ≠ g.rank →
    outcome.errors ≠ ["Error: " ++ report message cause?]
  /-- Where nothing is in the way, the nearest node has directions. They are shown, and what they say of arriving and of
  leaving for the wanted side. -/
  success : (∀ f, ¬Obstacle files arguments f) → ∃ r map node directions arrive depart, Reads arguments r ∧
    files.map r.path = .ok map ∧ index.nearest? map r.query = some node ∧
    resolve map.view map.allows .standard node r.query = .ok directions ∧
    IsEntry (directions.arrival r.preference) arrive ∧ IsEntry (directions.departure r.preference) depart ∧
    outcome = ⟨files.loadedLines asked ++ answerLines r node directions arrive depart, [], 0⟩
  /-- Arguments that cannot be read keep the run from asking for a file. -/
  unasked : ∀ f, Obstacle files arguments f → f.isOfArguments = true → asked = []
  askedFirst : (∀ f, Obstacle files arguments f → f.isOfArguments = false) → asked = arguments.take 1
  /-- What has been loaded is said first. -/
  loaded : outcome.output.take 1 = files.loadedLines asked

section Endings

variable {files : Files} {index : Index Float} {report : Report} {arguments : List String}

theorem FirstObstacle.ends {asked : List String} {f : Failure} (first : FirstObstacle files arguments f)
    (begins : report.BeginsWithMessage) (needed : asked = if f.isOfArguments then [] else arguments.take 1) :
    Ends files index report arguments (.failure report (files.loadedLines asked) f) asked := by
  constructor
  case first_or_none => exact .inl ⟨f, first⟩
  case failure => exact fun g hg => ⟨f.message, f.cause?, hg.eq first ▸ first.obstacle.complaint, rfl⟩
  case told =>
    intro g hg g' message cause? complaint apart same
    rw [hg.eq first] at apart
    have same : "Error: " ++ report f.message f.cause? = "Error: " ++ report message cause? := List.singleton_inj.1 same
    exact first.obstacle.complaint.report_ne begins complaint apart ((String.append_right_inj _).1 same)
  case success => exact fun none => absurd first.obstacle (none f)
  case unasked =>
    intro g hg early
    have : f.isOfArguments = true := decide_eq_true ((first.rank_le g hg).trans_lt (of_decide_eq_true early))
    rw [needed, this]
    rfl
  case askedFirst =>
    intro late
    rw [needed, late f first.obstacle]
    rfl
  case loaded =>
    have short : asked.length ≤ 1 := by
      rw [needed]
      split <;> simp
    exact List.take_of_length_le ((files.length_loadedLines_le asked).trans short)

/-- What is in the way of a request are the file, the lack of nodes and the query, in this order. -/
theorem Reads.obstacle_iff {r : Request} {f : Failure} (h : Reads arguments r) :
    Obstacle files arguments f ↔ (∃ fault, files.map r.path = .error fault ∧ f = .map fault) ∨
      (∃ map, files.map r.path = .ok map ∧ map.nodeCount = 0 ∧ f = .noNodes) ∨
      (r.query.isOnGlobe = false ∧ f = .request (.offGlobe r.query)) := by
  constructor
  · intro o
    have late := h.three_lt_rank o
    cases o
    case map here failed =>
      obtain rfl := Option.some.inj (h.path.symm.trans here)
      exact .inl ⟨_, failed, rfl⟩
    case noNodes here loaded empty =>
      obtain rfl := Option.some.inj (h.path.symm.trans here)
      exact .inr (.inl ⟨_, loaded, empty, rfl⟩)
    case offGlobe hlat hlon lat lon off =>
      obtain ⟨_, hlat', lat'⟩ := h.latitude
      obtain ⟨_, hlon', lon'⟩ := h.longitude
      obtain rfl := Option.some.inj (hlat.symm.trans hlat')
      obtain rfl := Option.some.inj (hlon.symm.trans hlon')
      obtain rfl := Except.ok.inj (lat.symm.trans lat')
      obtain rfl := Except.ok.inj (lon.symm.trans lon')
      exact .inr (.inr ⟨off, rfl⟩)
    all_goals simp [Failure.rank] at late
  · rintro (⟨fault, failed, rfl⟩ | ⟨map, loaded, empty, rfl⟩ | ⟨off, rfl⟩)
    · exact .map h.path failed
    · exact .noNodes h.path loaded empty
    · obtain ⟨_, hlat, lat⟩ := h.latitude
      obtain ⟨_, hlon, lon⟩ := h.longitude
      exact .offGlobe hlat hlon lat lon off

theorem Reads.take_one {r : Request} (h : Reads arguments r) :
    arguments.take 1 = [r.path] := by
  rw [List.take_one, List.head?_eq_getElem?, h.path]
  rfl

/-- The index finds what is closest to a request in the file that is asked for. -/
def Serves (index : Index Float) (files : Files) (arguments : List String) : Prop :=
  ∀ r map, Reads arguments r → files.map r.path = .ok map → index.FindsClosest map.entries r.query

/-- With nothing in the way, the directions at the nearest node are shown. -/
theorem Reads.ends_of_free {r : Request} {map : RoadMap Float} {node : NodeId} {directions : Directions}
    (h : Reads arguments r) (free : ∀ f, ¬Obstacle files arguments f) (loading : files.map r.path = .ok map)
    (nearest : index.nearest? map r.query = some node)
    (resolved : resolve map.view map.allows .standard node r.query = .ok directions) :
    Ends files index report arguments
      (.success (loadedLine map (files.seconds r.path) :: r.lines node directions)) [r.path] := by
  have lines := Files.loadedLines_of_ok loading
  constructor
  case first_or_none => exact .inr free
  case failure => exact fun f first => absurd first.obstacle (free f)
  case told => exact fun f first => absurd first.obstacle (free f)
  case success =>
    intro _
    refine ⟨r, map, node, directions, _, _, h, loading, nearest, resolved, isEntry_text _, isEntry_text _, ?_⟩
    rw [lines, Request.lines_eq]
    rfl
  case unasked => exact fun f o => absurd o (free f)
  case askedFirst => exact fun _ => h.take_one.symm
  case loaded => exact lines.symm

/-- Once the arguments are read, the map decides and then the query. -/
theorem Reads.ends {r : Request} (h : Reads arguments r) (serves : Serves index files arguments)
    (begins : report.BeginsWithMessage) :
    Ends files index report arguments (r.outcome index report ⟨files.map r.path, files.seconds r.path⟩) [r.path] := by
  cases loading : files.map r.path with
  | error fault =>
    have first : FirstObstacle files arguments (.map fault) :=
      ⟨.map h.path loading, fun g hg => h.three_lt_rank hg⟩
    have ends : Ends files index report arguments (.failure report (files.loadedLines [r.path]) (.map fault))
        [r.path] := first.ends begins h.take_one.symm
    rwa [Files.loadedLines_of_error loading] at ends
  | ok map =>
    have lines := Files.loadedLines_of_ok loading
    have finds := serves r map h loading
    -- the file is no obstacle any more
    have later {g : Failure} (o : Obstacle files arguments g) :
        map.nodeCount = 0 ∧ g = .noNodes ∨ r.query.isOnGlobe = false ∧ g = .request (.offGlobe r.query) := by
      obtain ⟨_, failed, -⟩ | ⟨map', loaded, empty⟩ | off := h.obstacle_iff.1 o
      · cases loading.symm.trans failed
      · obtain rfl := Except.ok.inj (loading.symm.trans loaded)
        exact .inl empty
      · exact .inr off
    by_cases empty : map.nodeCount = 0
    · have first : FirstObstacle files arguments .noNodes :=
        ⟨.noNodes h.path loading empty, fun g o => by
          obtain ⟨-, rfl⟩ | ⟨-, rfl⟩ := later o <;> simp [Failure.rank]⟩
      rw [Request.outcome_of_respond_error (Request.respond_noNodes finds empty), ← lines]
      exact first.ends begins h.take_one.symm
    · cases on : r.query.isOnGlobe with
      | false =>
        have first : FirstObstacle files arguments (.request (.offGlobe r.query)) :=
          ⟨h.obstacle_iff.2 (.inr (.inr ⟨on, rfl⟩)), fun g o => by
            obtain ⟨none, -⟩ | ⟨-, rfl⟩ := later o
            · exact absurd none empty
            · rfl⟩
        rw [Request.outcome_of_respond_error (Request.respond_offGlobe finds empty on), ← lines]
        exact first.ends begins h.take_one.symm
      | true =>
        have free (g : Failure) : ¬Obstacle files arguments g := fun o => by
          obtain ⟨none, -⟩ | ⟨off, -⟩ := later o
          · exact empty none
          · cases on.symm.trans off
        obtain ⟨node, directions, nearest, resolved, answered⟩ := Request.respond_onGlobe finds empty on
        rw [Request.outcome_of_respond_ok answered]
        exact h.ends_of_free free loading nearest resolved

end Endings

/-- Only the first four arguments are read. -/
theorem Request.ofArguments_take (arguments : List String) :
    ofArguments (arguments.take 4) = ofArguments arguments := by
  match arguments with
  | [] | [_] | [_, _] | [_, _, _] | _ :: _ :: _ :: _ :: _ => rfl

/-- **What comes first decides**: whatever the files are and whatever the arguments, with an index that finds what is
closest and a report that begins with its message, a run ends as the first obstacle in its way demands, and with
directions if there is none. The file is asked for as soon as the arguments are read and no sooner. Arguments after the
fourth make no difference, and the node that is nearest to a query is never unknown. -/
theorem run_ends {files : Files} {arguments : List String} {index : Index Float} {report : Report}
    (serves : Serves index files arguments) (begins : report.BeginsWithMessage) :
    Ends files index report arguments (files.run index report arguments).1 (files.run index report arguments).2 ∧
      files.run index report (arguments.take 4) = files.run index report arguments ∧
      ∀ r map node, Reads arguments r → files.map r.path = .ok map →
        r.respond index map ≠ .error (.request (.unknownNode node)) := by
  refine ⟨?_, ?_, fun r map node reads loaded => Request.respond_ne_unknownNode (serves r map reads loaded) node⟩
  · obtain ⟨r, read, reads⟩ | ⟨f, unread, first, early⟩ := Request.ofArguments_cases files arguments
    · rw [files.run_of_ok index report read]
      exact reads.ends serves begins
    · rw [files.run_of_error index report unread]
      exact first.ends begins (by rw [early, if_pos rfl])
  · rw [Files.run, Files.run, CommandLine.run, CommandLine.run, Request.ofArguments_take]

/-! ### Finite numbers -/

/-- Positions in the files are finite, and so are the latitude and the longitude that the arguments name. -/
structure AreFinite (files : Files) (arguments : List String) : Prop where
  positions : ∀ path elements, files.elements path = .ok elements → ∀ id p, .node id p ∈ elements → p.IsFinite
  numbers : ∀ i text x, i = 1 ∨ i = 2 → arguments[i]? = some text → Decimal.floatOfText text = .ok x →
    x.isFinite = true

/-- Among finite numbers an index serves that finds the closest of finite positions. -/
theorem AreFinite.serves {files : Files} {arguments : List String} (h : AreFinite files arguments)
    {index : Index Float} (finds : ∀ (entries : List (Entry Float)) (point : Point Float),
      (∀ e ∈ entries, e.2.IsFinite) → point.IsFinite → index.FindsClosest entries point) :
    Serves index files arguments := by
  intro r map reads loaded
  obtain ⟨_, hlat, lat⟩ := reads.latitude
  obtain ⟨_, hlon, lon⟩ := reads.longitude
  obtain ⟨elements, notices, held, made⟩ := files.exists_elements loaded
  refine finds _ _ (RoadMap.forall_entries fun p hp => ?_)
    ⟨h.numbers 1 _ _ (.inl rfl) hlat lat, h.numbers 2 _ _ (.inr rfl) hlon lon⟩
  obtain ⟨id, here⟩ := OpenStreetMap.exists_node_of_mem_positions made hp
  exact h.positions r.path elements held id p here

/-- A single road. -/
def laneElements : List OpenStreetMap.Element :=
  [.node 1 ⟨0, 0⟩, .node 2 ⟨0, 0.001⟩, .way ⟨10, [1, 2], [("highway", "residential")]⟩]

/-- A single file. -/
def lane : Files where
  elements path := if path = "lane" then .ok laneElements else .error (.unreadable "No such file or directory" 2)
  seconds _ := 0

theorem run_ends_lane :
    let arguments := ["lane", "0", "0.0005", "left"]
    (Serves .sorting lane arguments ∧ Report.plain.BeginsWithMessage) ∧
    Ends lane .sorting .plain arguments (lane.run .sorting .plain arguments).1 (lane.run .sorting .plain arguments).2 ∧
      lane.run .sorting .plain (arguments.take 4) = lane.run .sorting .plain arguments ∧
      ∀ r map node, Reads arguments r → lane.map r.path = .ok map →
        r.respond .sorting map ≠ .error (.request (.unknownNode node)) := by
  intro arguments
  have finite : AreFinite lane arguments := by
    constructor
    case positions =>
      intro path elements held id p here
      by_cases named : path = "lane"
      · obtain rfl : laneElements = elements := by
          rw [lane, named] at held
          exact Except.ok.inj held
        have among : p = ⟨0, 0⟩ ∨ p = ⟨0, 0.001⟩ := by
          simp only [laneElements, List.mem_cons, OpenStreetMap.Element.node.injEq, reduceCtorEq, List.not_mem_nil,
            or_false] at here
          exact here.imp And.right And.right
        rcases among with rfl | rfl <;> decide +kernel
      · rw [lane] at held
        cases (if_neg named).symm.trans held
    case numbers =>
      have read {text : String} {x : Float} (h : Decimal.floatOfText text = .ok x)
          (finite : (Decimal.floatOfText text).toOption.all Float.isFinite = true) : x.isFinite = true := by
        rwa [h] at finite
      rintro i text x (rfl | rfl) ⟨⟩ number
      · exact read number (by decide +kernel)
      · exact read number (by decide +kernel)
  have serves : Serves .sorting lane arguments := finite.serves fun _ _ => Index.findsClosest_sorting
  exact ⟨⟨serves, Report.plain_beginsWithMessage⟩, run_ends serves Report.plain_beginsWithMessage⟩

end Roadside.CommandLine
