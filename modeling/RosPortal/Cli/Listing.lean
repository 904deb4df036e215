import RosPortal.Cli.RemoteCommand
import RosPortal.Cli.TopicPub

/-! The listings of topics and services: what is hidden, what is collected from the graph, and the
text that it is formatted as. -/

set_option autoImplicit false

namespace RosPortal.Cli

open JsonText Manager

def slash : UInt8 := 47

def underscore : UInt8 := 95

def newline : UInt8 := 10

/-- The loop of `hasHiddenNameToken`, which begins at a token or at the slashes before it. -/
def hasHiddenNameToken (name : Bytes) : Bool :=
  match _found : name.dropWhile (· == slash) with
  | [] => false
  | first :: rest =>
      if first = underscore then true
      else
        match _ended : rest.dropWhile (· != slash) with
        | [] => false
        | _ :: after => hasHiddenNameToken after
termination_by name.length
decreasing_by
  have skipped := (List.dropWhile_suffix (l := name) (· == slash)).length_le
  have token := (List.dropWhile_suffix (l := rest) (· != slash)).length_le
  rw [_found] at skipped
  rw [_ended] at token
  simp only [List.length_cons] at skipped token
  omega

def isHiddenTopic (topicName : Bytes) : Bool := hasHiddenNameToken topicName

def isHiddenService (serviceName : Bytes) : Bool := hasHiddenNameToken serviceName

structure TopicInfo where
  name : Bytes
  types : List Bytes
  publisherCount : Nat := 0
  subscriberCount : Nat := 0
deriving DecidableEq, Repr

structure ServiceInfo where
  name : Bytes
  types : List Bytes
deriving DecidableEq, Repr

/-- `TopicNamesAndTypes` and `ServiceNamesAndTypes`: the entries of a map, in its order. -/
structure NamesAndTypes where
  entries : List (Bytes × List Bytes)
  sorted : (entries.map Prod.fst).Pairwise (· < ·)

/-- The node graph: the topics, the services and the counts of endpoints, any of which may throw. -/
structure NodeGraph where
  topicNamesAndTypes : Except Bytes NamesAndTypes
  serviceNamesAndTypes : Except Bytes NamesAndTypes
  countPublishers : Bytes → Except Bytes Nat
  countSubscribers : Bytes → Except Bytes Nat

/-- `std::sort` by name. -/
def sortByName {Info : Type} (name : Info → Bytes) (infos : List Info) : List Info :=
  infos.mergeSort fun first second => !decide (name second < name first)

def topicInfo (graph : NodeGraph) (options : TopicListOptions) (entry : Bytes × List Bytes) :
    Except Bytes TopicInfo :=
  if options.verbose then do
    let publisherCount ← graph.countPublishers entry.1
    let subscriberCount ← graph.countSubscribers entry.1
    return ⟨entry.1, entry.2, publisherCount, subscriberCount⟩
  else .ok { name := entry.1, types := entry.2 }

def collectTopicInfo (topics : NamesAndTypes) (graph : NodeGraph) (options : TopicListOptions) :
    Except Bytes (List TopicInfo) := do
  let visible := topics.entries.filter fun entry => options.includeHiddenTopics || !isHiddenTopic entry.1
  let infos ← visible.mapM (topicInfo graph options)
  return sortByName TopicInfo.name infos

def collectServiceInfo (services : NamesAndTypes) (options : ServiceListOptions) : List ServiceInfo :=
  let visible := services.entries.filter fun entry => options.includeHiddenServices || !isHiddenService entry.1
  sortByName ServiceInfo.name (visible.map fun entry => ⟨entry.1, entry.2⟩)

def typesText (types : List Bytes) : Bytes := ascii " [" ++ TopicPub.joinTypes types ++ ascii "]"

def decimal (number : Nat) : Bytes := ascii (toString number)

/-- A line of the verbose listing. -/
def endpointLine (topic : TopicInfo) (count : Nat) (endpoint : String) : Bytes :=
  ascii " * " ++ topic.name ++ typesText topic.types ++ ascii " " ++ decimal count ++ ascii " " ++
    ascii endpoint ++ (if count ≠ 1 then ascii "s" else []) ++ [newline]

def plainLine (showTypes : Bool) (name : Bytes) (types : List Bytes) : Bytes :=
  name ++ (if showTypes then typesText types else []) ++ [newline]

def formatTopicList (topics : List TopicInfo) (options : TopicListOptions) : Bytes :=
  if options.countTopics then decimal topics.length ++ [newline]
  else if !options.verbose then topics.flatMap fun topic => plainLine options.showTypes topic.name topic.types
  else
    ascii "Published topics:\n" ++
      (topics.filter fun topic => topic.publisherCount ≠ 0).flatMap
        (fun topic => endpointLine topic topic.publisherCount "publisher") ++
      ascii "\nSubscribed topics:\n" ++
      (topics.filter fun topic => topic.subscriberCount ≠ 0).flatMap
        fun topic => endpointLine topic topic.subscriberCount "subscriber"

def formatServiceList (services : List ServiceInfo) (options : ServiceListOptions) : Bytes :=
  if options.countServices then decimal services.length ++ [newline]
  else services.flatMap fun service => plainLine options.showTypes service.name service.types

/-- The part of `handleTopicListRpc` between the request and the response. -/
def listTopics (graph : NodeGraph) (options : TopicListOptions) : Except Bytes Bytes := do
  let topics ← graph.topicNamesAndTypes
  let infos ← collectTopicInfo topics graph options
  return formatTopicList infos options

def listServices (graph : NodeGraph) (options : ServiceListOptions) : Except Bytes Bytes := do
  let services ← graph.serviceNamesAndTypes
  return formatServiceList (collectServiceInfo services options) options

section Hidden

/-- A token of the name begins with an underscore. -/
def HasUnderscoreToken (name : Bytes) : Prop :=
  ∃ before after, name = before ++ underscore :: after ∧ (before = [] ∨ before.getLast? = some slash)

/-- The same, read off the name octet by octet. -/
def underscoreAt : Bool → Bytes → Bool
  | _, [] => false
  | start, octet :: rest => start && octet == underscore || underscoreAt (octet == slash) rest

theorem underscoreAt_iff (start : Bool) (name : Bytes) :
    underscoreAt start name = true ↔ ∃ before after, name = before ++ underscore :: after ∧
      (before = [] ∧ start = true ∨ before.getLast? = some slash) := by
  induction name generalizing start with
  | nil => simp [underscoreAt]
  | cons octet rest ih =>
      simp only [underscoreAt, Bool.or_eq_true, Bool.and_eq_true, beq_iff_eq, ih]
      constructor
      · rintro (⟨started, rfl⟩ | ⟨before, after, rfl, boundary⟩)
        · exact ⟨[], rest, rfl, .inl ⟨rfl, started⟩⟩
        · refine ⟨octet :: before, after, rfl, .inr ?_⟩
          rcases boundary with ⟨rfl, rfl⟩ | last
          · rfl
          · simp [List.getLast?_cons, last]
      · rintro ⟨before, after, split, boundary⟩
        cases before with
        | nil =>
            obtain ⟨rfl, rfl⟩ := List.cons.inj split
            rcases boundary with ⟨_, started⟩ | last
            · exact .inl ⟨started, rfl⟩
            · cases last
        | cons first before =>
            obtain ⟨rfl, rfl⟩ := List.cons.inj split
            refine .inr ⟨before, after, rfl, ?_⟩
            rcases boundary with ⟨none, _⟩ | last
            · cases none
            · cases before with
              | nil => exact .inl ⟨rfl, by simpa using last⟩
              | cons => exact .inr (by simpa [List.getLast?_cons] using last)

theorem underscoreAt_dropWhile_slash (name : Bytes) :
    underscoreAt true (name.dropWhile (· == slash)) = underscoreAt true name := by
  induction name with
  | nil => rfl
  | cons octet rest ih =>
      by_cases isSlash : octet = slash
      · subst isSlash
        rw [List.dropWhile_cons_of_pos (by simp), ih]
        rfl
      · rw [List.dropWhile_cons_of_neg (by simpa using isSlash)]

/-- Within a token, nothing is found before the slash that ends it. -/
theorem underscoreAt_within (rest : Bytes) :
    underscoreAt false rest =
      match rest.dropWhile (· != slash) with
      | [] => false
      | _ :: after => underscoreAt true after := by
  induction rest with
  | nil => rfl
  | cons octet rest ih =>
      by_cases isSlash : octet = slash
      · subst isSlash
        rfl
      · have other : (octet == slash) = false := by simpa using isSlash
        rw [List.dropWhile_cons_of_pos (by simpa using isSlash), ← ih]
        simp [underscoreAt, other]

theorem hasHiddenNameToken_eq (name : Bytes) : hasHiddenNameToken name = underscoreAt true name := by
  fun_induction hasHiddenNameToken name with
  | case1 name found =>
      rw [← underscoreAt_dropWhile_slash, found]
      rfl
  | case2 name rest found =>
      rw [← underscoreAt_dropWhile_slash, found]
      rfl
  | case3 name first rest found token ended =>
      have notSlash := List.head?_dropWhile_not (· == slash) name
      rw [found] at notSlash
      have other : (first == slash) = false := by simpa using notSlash
      rw [← underscoreAt_dropWhile_slash, found, underscoreAt, other, underscoreAt_within, ended]
      simp [token]
  | case4 name first rest found token octet after ended ih =>
      have notSlash := List.head?_dropWhile_not (· == slash) name
      rw [found] at notSlash
      have other : (first == slash) = false := by simpa using notSlash
      rw [← underscoreAt_dropWhile_slash, found, underscoreAt, other, underscoreAt_within, ended, ih]
      simp [token]

theorem hasHiddenNameToken_iff (name : Bytes) : hasHiddenNameToken name = true ↔ HasUnderscoreToken name := by
  rw [hasHiddenNameToken_eq, underscoreAt_iff]
  simp [HasUnderscoreToken]

end Hidden

section Sorting

theorem sortByName_of_sorted {Info : Type} {name : Info → Bytes} {infos : List Info}
    (sorted : (infos.map name).Pairwise (· < ·)) : sortByName name infos = infos := by
  apply List.mergeSort_of_pairwise
  refine (List.pairwise_map.mp sorted).imp ?_
  intro first second below
  simp only [Bool.not_eq_true', decide_eq_false_iff_not]
  exact fun above => absurd below (List.lt_asymm above)

end Sorting

section Reading

def space : UInt8 := 32

/-- ASCII on one line. -/
def OneLine (text : Bytes) : Prop := ∀ octet ∈ text, octet < 0x80 ∧ octet ≠ newline

instance (text : Bytes) : Decidable (OneLine text) :=
  List.decidableBAll (fun octet => octet < 0x80 ∧ octet ≠ newline) text

theorem OneLine.newline_not_mem {text : Bytes} (oneLine : OneLine text) : newline ∉ text :=
  fun member => (oneLine _ member).2 rfl

theorem OneLine.append {before after : Bytes} (first : OneLine before) (second : OneLine after) :
    OneLine (before ++ after) := by
  intro octet member
  rcases List.mem_append.mp member with earlier | later
  · exact first octet earlier
  · exact second octet later

theorem splitOn_lines (lines : List Bytes) (whole : ∀ line ∈ lines, OneLine line) (rest : Bytes) :
    (lines.flatMap (· ++ [newline]) ++ rest).splitOn newline = lines ++ rest.splitOn newline := by
  induction lines with
  | nil => rfl
  | cons line lines ih =>
      have later := ih fun other listed => whole other (List.mem_cons_of_mem _ listed)
      simp only [List.flatMap_cons, List.append_assoc, List.cons_append, List.nil_append]
      rw [List.splitOn_append_cons_self_of_not_mem (whole line List.mem_cons_self).newline_not_mem, later]

/-- The names in the lines of a listing. -/
def namesIn (output : Bytes) : List Bytes :=
  (getlines output).map fun line => line.takeWhile (· != space)

theorem getlines_lines (lines : List Bytes) (whole : ∀ line ∈ lines, OneLine line) :
    getlines (lines.flatMap (· ++ [newline])) = lines := by
  have split := splitOn_lines lines whole []
  rw [List.append_nil, List.splitOn_nil] at split
  change (if ((lines.flatMap (· ++ [newline])).splitOn newline).getLast? = some [] then _ else _) = lines
  rw [split, List.getLast?_concat, if_pos rfl]
  exact (congrArg List.dropLast split).trans List.dropLast_concat

theorem takeWhile_name (name rest : Bytes) (blankless : space ∉ name) :
    (name ++ space :: rest).takeWhile (· != space) = name := by
  have before : ∀ octet ∈ name, (octet != space) = true := by
    intro octet member
    simpa using fun same : octet = space => blankless (same ▸ member)
  rw [List.takeWhile_append_of_pos before, List.takeWhile_cons_of_neg (by simp), List.append_nil]

theorem takeWhile_whole (name : Bytes) (blankless : space ∉ name) : name.takeWhile (· != space) = name := by
  rw [List.takeWhile_eq_self_iff]
  intro octet member
  simpa using fun same : octet = space => blankless (same ▸ member)

theorem oneLine_joinTypes (types : List Bytes) (whole : ∀ type ∈ types, OneLine type) :
    OneLine (TopicPub.joinTypes types) := by
  unfold TopicPub.joinTypes
  induction types with
  | nil => nofun
  | cons type types ih =>
      have first := whole type List.mem_cons_self
      have later := ih fun other listed => whole other (List.mem_cons_of_mem _ listed)
      cases types with
      | nil => simpa using first
      | cons next types =>
          have comma : OneLine (ascii ", ") := by decide
          rw [List.intercalate_cons_cons]
          exact (first.append comma).append later

/-- Names without blanks, and types on one line, as ROS has them. -/
def NamesAndTypes.Plain (names : NamesAndTypes) : Prop :=
  ∀ entry ∈ names.entries, OneLine entry.1 ∧ space ∉ entry.1 ∧ ∀ type ∈ entry.2, OneLine type

theorem oneLine_typesText {types : List Bytes} (whole : ∀ type ∈ types, OneLine type) :
    OneLine (typesText types) := by
  have opening : OneLine (ascii " [") := by decide
  have closing : OneLine (ascii "]") := by decide
  exact (opening.append (oneLine_joinTypes types whole)).append closing

/-- The lines of the plain listing. -/
def plainLines {Info : Type} (showTypes : Bool) (name : Info → Bytes) (types : Info → List Bytes)
    (infos : List Info) : List Bytes :=
  infos.map fun info => name info ++ if showTypes then typesText (types info) else []

theorem plainLines_eq {Info : Type} (showTypes : Bool) (name : Info → Bytes) (types : Info → List Bytes)
    (infos : List Info) :
    (infos.flatMap fun info => plainLine showTypes (name info) (types info)) =
      (plainLines showTypes name types infos).flatMap (· ++ [newline]) := by
  rw [plainLines, List.flatMap_map]
  rfl

theorem plainLines_whole {Info : Type} (showTypes : Bool) (name : Info → Bytes) (types : Info → List Bytes)
    (infos : List Info) (whole : ∀ info ∈ infos, OneLine (name info) ∧ ∀ type ∈ types info, OneLine type) :
    ∀ line ∈ plainLines showTypes name types infos, OneLine line := by
  rintro line listed
  obtain ⟨info, member, rfl⟩ := List.mem_map.mp listed
  obtain ⟨named, typed⟩ := whole info member
  apply named.append
  split
  · exact oneLine_typesText typed
  · nofun

/-- The names of a plain listing, with types or without, are read back from its lines. -/
theorem namesIn_plainLines {Info : Type} (showTypes : Bool) (name : Info → Bytes) (types : Info → List Bytes)
    (infos : List Info)
    (whole : ∀ info ∈ infos, OneLine (name info) ∧ space ∉ name info ∧ ∀ type ∈ types info, OneLine type) :
    namesIn ((plainLines showTypes name types infos).flatMap (· ++ [newline])) = infos.map name := by
  have lines := getlines_lines _ <| plainLines_whole showTypes name types infos fun info member =>
    ⟨(whole info member).1, (whole info member).2.2⟩
  rw [namesIn, lines, plainLines, List.map_map]
  apply List.map_congr_left
  intro info member
  obtain ⟨_, blankless, _⟩ := whole info member
  cases showTypes with
  | false => simpa using takeWhile_whole _ blankless
  | true => exact takeWhile_name _ _ blankless

end Reading

section Collecting

def NamesAndTypes.visible (names : NamesAndTypes) (hiddenToo : Bool) : List (Bytes × List Bytes) :=
  names.entries.filter fun entry => hiddenToo || !hasHiddenNameToken entry.1

theorem NamesAndTypes.mem_visible (names : NamesAndTypes) (hiddenToo : Bool) (entry : Bytes × List Bytes) :
    entry ∈ names.visible hiddenToo ↔
      entry ∈ names.entries ∧ (hiddenToo = true ∨ ¬ HasUnderscoreToken entry.1) := by
  rw [← hasHiddenNameToken_iff, visible, List.mem_filter]
  simp

theorem NamesAndTypes.visible_sorted (names : NamesAndTypes) (hiddenToo : Bool) :
    ((names.visible hiddenToo).map Prod.fst).Pairwise (· < ·) :=
  names.sorted.sublist (List.filter_sublist.map _)

theorem mapM_ok {Input Result Failed : Type} {function : Input → Except Failed Result} {result : Input → Result}
    (inputs : List Input) (all : ∀ input ∈ inputs, function input = .ok (result input)) :
    inputs.mapM function = .ok (inputs.map result) := by
  induction inputs with
  | nil => rfl
  | cons input inputs ih =>
      have later := ih fun other member => all other (List.mem_cons_of_mem _ member)
      rw [List.mapM_cons, all input List.mem_cons_self, later]
      rfl

/-- The numbers of publishers and subscribers of the topics in the graph. -/
def NodeGraph.Counts (graph : NodeGraph) (topics : NamesAndTypes) (publishers subscribers : Bytes → Nat) : Prop :=
  ∀ entry ∈ topics.entries, graph.countPublishers entry.1 = .ok (publishers entry.1) ∧
    graph.countSubscribers entry.1 = .ok (subscribers entry.1)

def countedInfo (options : TopicListOptions) (publishers subscribers : Bytes → Nat) (entry : Bytes × List Bytes) :
    TopicInfo :=
  if options.verbose then ⟨entry.1, entry.2, publishers entry.1, subscribers entry.1⟩
  else { name := entry.1, types := entry.2 }

@[simp] theorem countedInfo_name (options : TopicListOptions) (publishers subscribers : Bytes → Nat)
    (entry : Bytes × List Bytes) : (countedInfo options publishers subscribers entry).name = entry.1 := by
  unfold countedInfo
  split <;> rfl

@[simp] theorem countedInfo_types (options : TopicListOptions) (publishers subscribers : Bytes → Nat)
    (entry : Bytes × List Bytes) : (countedInfo options publishers subscribers entry).types = entry.2 := by
  unfold countedInfo
  split <;> rfl

/-- The graph is in the order of the names, so that it is collected in its own order. -/
theorem collectTopicInfo_eq {topics : NamesAndTypes} {graph : NodeGraph} {publishers subscribers : Bytes → Nat}
    (counts : graph.Counts topics publishers subscribers) (options : TopicListOptions) :
    collectTopicInfo topics graph options =
      .ok ((topics.visible options.includeHiddenTopics).map (countedInfo options publishers subscribers)) := by
  have each : ∀ entry ∈ topics.visible options.includeHiddenTopics,
      topicInfo graph options entry = .ok (countedInfo options publishers subscribers entry) := by
    intro entry shown
    obtain ⟨published, subscribed⟩ := counts entry ((topics.mem_visible _ entry).mp shown).1
    unfold topicInfo countedInfo
    split
    · rw [published, subscribed]
      rfl
    · rfl
  have all := mapM_ok _ each
  have sorted : (((topics.visible options.includeHiddenTopics).map
      (countedInfo options publishers subscribers)).map TopicInfo.name).Pairwise (· < ·) := by
    rw [List.map_map]
    simpa [Function.comp_def] using topics.visible_sorted options.includeHiddenTopics
  change ((topics.visible options.includeHiddenTopics).mapM (topicInfo graph options) >>= _) = _
  rw [all]
  exact congrArg Except.ok (sortByName_of_sorted sorted)

theorem collectServiceInfo_eq (services : NamesAndTypes) (options : ServiceListOptions) :
    collectServiceInfo services options =
      (services.visible options.includeHiddenServices).map fun entry => ⟨entry.1, entry.2⟩ := by
  apply sortByName_of_sorted
  rw [List.map_map]
  exact services.visible_sorted options.includeHiddenServices

end Collecting

section Shown

variable {topics : NamesAndTypes} {graph : NodeGraph} {publishers subscribers : Bytes → Nat}

/-- The name in a line of the verbose listing, after its bullet. -/
def endpointName (line : Bytes) : Bytes := (line.drop 3).takeWhile (· != space)

/-- What a listing shows of the names: their number, the names, or those that are published and
those that are subscribed. -/
def ShowsTopics (options : TopicListOptions) (names : List Bytes) (publishers subscribers : Bytes → Nat)
    (output : Bytes) : Prop :=
  if options.countTopics then output = decimal names.length ++ [newline]
  else if options.verbose then
    ∃ published subscribed : List Bytes,
      getlines output = ascii "Published topics:" :: published ++ [] :: ascii "Subscribed topics:" :: subscribed ∧
      published.map endpointName = names.filter (publishers · ≠ 0) ∧
      subscribed.map endpointName = names.filter (subscribers · ≠ 0)
  else namesIn output = names

theorem oneLine_decimal (number : Nat) : OneLine (decimal number) := by
  intro octet member
  obtain ⟨digit, written, rfl⟩ := List.mem_map.mp member
  have digits : digit ∈ Nat.toDigits 10 number := by simpa [toString, Nat.repr] using written
  have isDigit := Nat.isDigit_of_mem_toDigits (by decide) (by decide) digits
  simp only [Char.isDigit, Bool.and_eq_true, decide_eq_true_eq] at isDigit
  obtain ⟨atLeast, atMost⟩ := isDigit
  have low : 48 ≤ digit.toNat := atLeast
  have high : digit.toNat ≤ 57 := atMost
  have code : (UInt8.ofNat digit.toNat).toNat = digit.toNat := by
    rw [UInt8.toNat_ofNat']
    omega
  constructor
  · rw [UInt8.lt_iff_toNat_lt, code]
    change digit.toNat < 128
    omega
  · intro same
    rw [same] at code
    change 10 = digit.toNat at code
    omega

/-- The lines of one section of the verbose listing. -/
def endpointLines (topics : List TopicInfo) (count : TopicInfo → Nat) (endpoint : String) : List Bytes :=
  topics.map fun topic =>
    ascii " * " ++ topic.name ++ typesText topic.types ++ ascii " " ++ decimal (count topic) ++ ascii " " ++
      ascii endpoint ++ if count topic ≠ 1 then ascii "s" else []

theorem endpointLines_eq (topics : List TopicInfo) (count : TopicInfo → Nat) (endpoint : String) :
    topics.flatMap (fun topic => endpointLine topic (count topic) endpoint) =
      (endpointLines topics count endpoint).flatMap (· ++ [newline]) := by
  rw [endpointLines, List.flatMap_map]
  rfl

theorem endpointLines_whole (topics : List TopicInfo) (count : TopicInfo → Nat) {endpoint : String}
    (word : OneLine (ascii endpoint))
    (whole : ∀ topic ∈ topics, OneLine topic.name ∧ ∀ type ∈ topic.types, OneLine type) :
    ∀ line ∈ endpointLines topics count endpoint, OneLine line := by
  rintro line listed
  obtain ⟨topic, member, rfl⟩ := List.mem_map.mp listed
  obtain ⟨named, typed⟩ := whole topic member
  have bullet : OneLine (ascii " * ") := by decide
  have blank : OneLine (ascii " ") := by decide
  have plural : OneLine (if count topic ≠ 1 then ascii "s" else []) := by
    split <;> decide
  have counted := (((bullet.append named).append (oneLine_typesText typed)).append blank).append (oneLine_decimal (count topic))
  exact ((counted.append blank).append word).append plural

theorem endpointLines_names (topics : List TopicInfo) (count : TopicInfo → Nat) (endpoint : String)
    (blankless : ∀ topic ∈ topics, space ∉ topic.name) :
    (endpointLines topics count endpoint).map endpointName = topics.map TopicInfo.name := by
  rw [endpointLines, List.map_map]
  apply List.map_congr_left
  intro topic member
  have named := takeWhile_name topic.name (([91] ++ TopicPub.joinTypes topic.types ++ ascii "]") ++ ascii " " ++
    decimal (count topic) ++ ascii " " ++ ascii endpoint ++ if count topic ≠ 1 then ascii "s" else [])
    (blankless topic member)
  rw [← named]
  simp only [Function.comp_apply, endpointName, typesText, List.append_assoc]
  rfl

/-- The two sections of the verbose listing, line by line. -/
theorem getlines_sections (published subscribed : List Bytes) (first : ∀ line ∈ published, OneLine line)
    (second : ∀ line ∈ subscribed, OneLine line) :
    getlines (ascii "Published topics:\n" ++ published.flatMap (· ++ [newline]) ++
        ascii "\nSubscribed topics:\n" ++ subscribed.flatMap (· ++ [newline])) =
      ascii "Published topics:" :: published ++ [] :: ascii "Subscribed topics:" :: subscribed := by
  have opening : OneLine (ascii "Published topics:") := by decide +kernel
  have between : OneLine (ascii "Subscribed topics:") := by decide +kernel
  have whole : ∀ line ∈ ascii "Published topics:" :: published ++ [] :: ascii "Subscribed topics:" :: subscribed,
      OneLine line := by
    simp only [List.forall_mem_append, List.forall_mem_cons]
    exact ⟨⟨opening, first⟩, nofun, between, second⟩
  rw [← getlines_lines _ whole]
  congr 1
  simp only [List.flatMap_append, List.flatMap_cons, List.append_assoc, List.nil_append]
  rfl

/-- The topics with endpoints, whose names a section shows. -/
theorem endpoints_names (shown : List (Bytes × List Bytes)) (info : Bytes × List Bytes → TopicInfo)
    (count : TopicInfo → Nat) (endpoints : Bytes → Nat)
    (same : ∀ entry ∈ shown, (info entry).name = entry.1 ∧ count (info entry) = endpoints entry.1) :
    ((shown.map info).filter fun topic => count topic ≠ 0).map TopicInfo.name =
      (shown.map Prod.fst).filter fun name => endpoints name ≠ 0 := by
  induction shown with
  | nil => rfl
  | cons entry shown ih =>
      obtain ⟨named, counted⟩ := same entry List.mem_cons_self
      have later := ih fun other member => same other (List.mem_cons_of_mem _ member)
      simp only [List.map_cons, List.filter_cons, counted]
      by_cases none : endpoints entry.1 = 0
      · simpa [none] using later
      · simpa [none, named] using later

theorem formatTopicList_shows (options : TopicListOptions) (plain : topics.Plain) :
    ShowsTopics options ((topics.visible options.includeHiddenTopics).map Prod.fst) publishers subscribers
      (formatTopicList ((topics.visible options.includeHiddenTopics).map (countedInfo options publishers subscribers))
        options) := by
  let shown := topics.visible options.includeHiddenTopics
  let infos := shown.map (countedInfo options publishers subscribers)
  have names : infos.map TopicInfo.name = shown.map Prod.fst := by simp [infos, Function.comp_def]
  have whole : ∀ topic ∈ infos, OneLine topic.name ∧ space ∉ topic.name ∧ ∀ type ∈ topic.types, OneLine type := by
    rintro topic listed
    obtain ⟨entry, member, rfl⟩ := List.mem_map.mp listed
    simpa using plain entry ((topics.mem_visible _ entry).mp member).1
  change ShowsTopics options (shown.map Prod.fst) publishers subscribers (formatTopicList infos options)
  unfold ShowsTopics formatTopicList
  split
  next => simp [infos]
  next =>
      cases verbose : options.verbose with
      | false =>
          simp only [Bool.false_eq_true, if_false, Bool.not_false, if_true]
          rw [← names]
          rw [plainLines_eq]
          exact namesIn_plainLines options.showTypes TopicInfo.name TopicInfo.types infos whole
      | true =>
          simp only [Bool.not_true, Bool.false_eq_true, if_false, if_true, endpointLines_eq]
          have sectionWhole : ∀ count : TopicInfo → Nat, ∀ topic ∈ infos.filter fun topic => count topic ≠ 0,
              OneLine topic.name ∧ space ∉ topic.name ∧ ∀ type ∈ topic.types, OneLine type :=
            fun _ topic listed => whole topic (List.mem_filter.mp listed).1
          refine ⟨_, _, getlines_sections _ _ ?_ ?_, ?_, ?_⟩
          · apply endpointLines_whole _ _ (by decide)
            exact fun topic listed => ⟨(sectionWhole _ topic listed).1, (sectionWhole _ topic listed).2.2⟩
          · apply endpointLines_whole _ _ (by decide)
            exact fun topic listed => ⟨(sectionWhole _ topic listed).1, (sectionWhole _ topic listed).2.2⟩
          · rw [endpointLines_names _ _ _ fun topic listed => (sectionWhole _ topic listed).2.1]
            apply endpoints_names
            simp [countedInfo, verbose]
          · rw [endpointLines_names _ _ _ fun topic listed => (sectionWhole _ topic listed).2.1]
            apply endpoints_names
            simp [countedInfo, verbose]

theorem isAscii_lines {lines : List Bytes} (whole : ∀ line ∈ lines, OneLine line) :
    IsAscii (lines.flatMap (· ++ [newline])) := by
  intro octet member
  obtain ⟨line, listed, within⟩ := List.mem_flatMap.mp member
  rcases List.mem_append.mp within with text | ending
  · exact (whole line listed octet text).1
  · rw [List.mem_singleton.mp ending]
    decide

theorem formatTopicList_ascii (options : TopicListOptions) {infos : List TopicInfo}
    (whole : ∀ topic ∈ infos, OneLine topic.name ∧ ∀ type ∈ topic.types, OneLine type) :
    IsAscii (formatTopicList infos options) := by
  have ascii_of_oneLine : ∀ {text : Bytes}, OneLine text → IsAscii text := fun oneLine octet member =>
    (oneLine octet member).1
  have filtered : ∀ count : TopicInfo → Nat, ∀ topic ∈ infos.filter fun topic => count topic ≠ 0,
      OneLine topic.name ∧ ∀ type ∈ topic.types, OneLine type :=
    fun _ topic listed => whole topic (List.mem_filter.mp listed).1
  unfold formatTopicList
  split
  next => exact (ascii_of_oneLine (oneLine_decimal _)).append (by decide)
  next =>
      split
      next =>
          rw [plainLines_eq]
          exact isAscii_lines (plainLines_whole _ _ _ _ whole)
      next =>
          have opening : IsAscii (ascii "Published topics:\n") := by decide +kernel
          have between : IsAscii (ascii "\nSubscribed topics:\n") := by decide +kernel
          simp only [endpointLines_eq]
          have published := isAscii_lines (endpointLines_whole _ TopicInfo.publisherCount
            (by decide : OneLine (ascii "publisher")) (filtered TopicInfo.publisherCount))
          have subscribed := isAscii_lines (endpointLines_whole _ TopicInfo.subscriberCount
            (by decide : OneLine (ascii "subscriber")) (filtered TopicInfo.subscriberCount))
          exact ((opening.append published).append between).append subscribed

theorem formatServiceList_ascii (options : ServiceListOptions) {infos : List ServiceInfo}
    (whole : ∀ service ∈ infos, OneLine service.name ∧ ∀ type ∈ service.types, OneLine type) :
    IsAscii (formatServiceList infos options) := by
  unfold formatServiceList
  split
  next => exact IsAscii.append (fun octet member => (oneLine_decimal _ octet member).1) (by decide)
  next =>
      rw [plainLines_eq]
      exact isAscii_lines (plainLines_whole _ _ _ _ whole)

end Shown

section Remote

variable {codec : Codec} {conversions : Conversions} {commands : LocalCommands}
  {portals : Bytes → Option LocalCommands} {delivered : Bytes → Bytes → Bool} {graph : NodeGraph}

theorem listTopics_eq {topics : NamesAndTypes} {publishers subscribers : Bytes → Nat}
    (known : graph.topicNamesAndTypes = .ok topics) (counts : graph.Counts topics publishers subscribers)
    (options : TopicListOptions) :
    listTopics graph options = .ok (formatTopicList
      ((topics.visible options.includeHiddenTopics).map (countedInfo options publishers subscribers)) options) := by
  rw [listTopics, known]
  change (collectTopicInfo topics graph options >>= _) = _
  rw [collectTopicInfo_eq counts]
  rfl

/-- A service listing shows the services of the graph, in its order. -/
theorem listServices_shows {services : NamesAndTypes} (known : graph.serviceNamesAndTypes = .ok services)
    (plain : services.Plain) (options : ServiceListOptions) :
    ∃ output, listServices graph options = .ok output ∧ IsAscii output ∧
      if options.countServices then
        output = decimal (services.visible options.includeHiddenServices).length ++ [newline]
      else namesIn output = (services.visible options.includeHiddenServices).map Prod.fst := by
  let shown := services.visible options.includeHiddenServices
  let infos : List ServiceInfo := shown.map fun entry => ⟨entry.1, entry.2⟩
  have whole : ∀ service ∈ infos,
      OneLine service.name ∧ space ∉ service.name ∧ ∀ type ∈ service.types, OneLine type := by
    rintro service member
    obtain ⟨entry, listed, rfl⟩ := List.mem_map.mp member
    exact plain entry ((services.mem_visible _ entry).mp listed).1
  refine ⟨formatServiceList infos options, ?_, ?_, ?_⟩
  · rw [listServices, known]
    exact congrArg (fun infos => Except.ok (formatServiceList infos options)) (collectServiceInfo_eq services options)
  · exact formatServiceList_ascii options fun service member => ⟨(whole service member).1, (whole service member).2.2⟩
  · unfold formatServiceList
    split
    · simp [infos, shown]
    · rw [plainLines_eq, namesIn_plainLines _ _ _ _ whole, List.map_map]
      rfl

end Remote

def chatterTopics : NamesAndTypes :=
  ⟨[(ascii "/_feedback", [ascii "std_msgs/msg/Bool"]), (ascii "/chatter", [ascii "std_msgs/msg/String"])],
    by decide +kernel⟩

theorem chatterTopics_visible :
    chatterTopics.visible false = [(ascii "/chatter", [ascii "std_msgs/msg/String"])] := by
  simp only [NamesAndTypes.visible, hasHiddenNameToken_eq]
  decide +kernel

def chatterGraph : NodeGraph where
  topicNamesAndTypes := .ok chatterTopics
  serviceNamesAndTypes := .ok ⟨[], .nil⟩
  countPublishers _ := .ok 1
  countSubscribers _ := .ok 0

def listingTalker : LocalCommands := { talker with listTopics := listTopics chatterGraph }

end RosPortal.Cli
