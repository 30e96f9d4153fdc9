import StackQuery.Text.Alphabet

/-!
# Letter case

Lower case maps one code point to one. Two lower-case letters are siblings when they share an upper
case, as the sigma and the final sigma do; matching without regard to case takes siblings as equal.
-/
namespace StackQuery.Text

/-- A run of `count` letters, `stride` apart, each `shift` away from its lower case. -/
structure CaseRun where
  first : Nat
  stride : Nat
  count : Nat
  shift : Int

namespace CaseRun

def contains (r : CaseRun) (c : Nat) : Bool :=
  r.first ≤ c && c < r.first + r.stride * r.count && (c - r.first) % r.stride == 0

def apply (r : CaseRun) (c : Nat) : Nat := (Int.ofNat c + r.shift).toNat

def preimage? (r : CaseRun) (c : Nat) : Option Nat :=
  let source := Int.ofNat c - r.shift
  if 0 ≤ source && r.contains source.toNat then some source.toNat else none

end CaseRun

def caseRuns : Array CaseRun := #[
  ⟨192,1,23,32⟩, ⟨216,1,7,32⟩, ⟨256,2,24,1⟩, ⟨304,1,1,-199⟩, ⟨306,2,3,1⟩, ⟨313,2,8,1⟩,
  ⟨330,2,23,1⟩, ⟨376,1,1,-121⟩, ⟨377,2,3,1⟩, ⟨385,1,1,210⟩, ⟨386,2,2,1⟩, ⟨390,1,1,206⟩,
  ⟨391,1,1,1⟩, ⟨393,1,2,205⟩, ⟨395,1,1,1⟩, ⟨398,1,1,79⟩, ⟨399,1,1,202⟩, ⟨400,1,1,203⟩, ⟨401,1,1,1⟩,
  ⟨403,1,1,205⟩, ⟨404,1,1,207⟩, ⟨406,1,1,211⟩, ⟨407,1,1,209⟩, ⟨408,1,1,1⟩, ⟨412,1,1,211⟩,
  ⟨413,1,1,213⟩, ⟨415,1,1,214⟩, ⟨416,2,3,1⟩, ⟨422,1,1,218⟩, ⟨423,1,1,1⟩, ⟨425,1,1,218⟩,
  ⟨428,1,1,1⟩, ⟨430,1,1,218⟩, ⟨431,1,1,1⟩, ⟨433,1,2,217⟩, ⟨435,2,2,1⟩, ⟨439,1,1,219⟩, ⟨440,1,1,1⟩,
  ⟨444,1,1,1⟩, ⟨452,1,1,2⟩, ⟨453,1,1,1⟩, ⟨455,1,1,2⟩, ⟨456,1,1,1⟩, ⟨458,1,1,2⟩, ⟨459,2,9,1⟩,
  ⟨478,2,9,1⟩, ⟨497,1,1,2⟩, ⟨498,2,2,1⟩, ⟨502,1,1,-97⟩, ⟨503,1,1,-56⟩, ⟨504,2,20,1⟩,
  ⟨544,1,1,-130⟩, ⟨546,2,9,1⟩, ⟨570,1,1,10795⟩, ⟨571,1,1,1⟩, ⟨573,1,1,-163⟩, ⟨574,1,1,10792⟩,
  ⟨577,1,1,1⟩, ⟨579,1,1,-195⟩, ⟨580,1,1,69⟩, ⟨581,1,1,71⟩, ⟨582,2,5,1⟩, ⟨880,2,2,1⟩, ⟨886,1,1,1⟩,
  ⟨895,1,1,116⟩, ⟨902,1,1,38⟩, ⟨904,1,3,37⟩, ⟨908,1,1,64⟩, ⟨910,1,2,63⟩, ⟨913,1,17,32⟩,
  ⟨931,1,9,32⟩, ⟨975,1,1,8⟩, ⟨984,2,12,1⟩, ⟨1012,1,1,-60⟩, ⟨1015,1,1,1⟩, ⟨1017,1,1,-7⟩,
  ⟨1018,1,1,1⟩, ⟨1021,1,3,-130⟩, ⟨1024,1,16,80⟩, ⟨1040,1,32,32⟩, ⟨1120,2,17,1⟩, ⟨1162,2,27,1⟩,
  ⟨1216,1,1,15⟩, ⟨1217,2,7,1⟩, ⟨1232,2,48,1⟩, ⟨1329,1,38,48⟩, ⟨4256,1,38,7264⟩, ⟨4295,1,1,7264⟩,
  ⟨4301,1,1,7264⟩, ⟨5024,1,80,38864⟩, ⟨5104,1,6,8⟩, ⟨7312,1,43,-3008⟩, ⟨7357,1,3,-3008⟩,
  ⟨7680,2,75,1⟩, ⟨7838,1,1,-7615⟩, ⟨7840,2,48,1⟩, ⟨7944,1,8,-8⟩, ⟨7960,1,6,-8⟩, ⟨7976,1,8,-8⟩,
  ⟨7992,1,8,-8⟩, ⟨8008,1,6,-8⟩, ⟨8025,2,4,-8⟩, ⟨8040,1,8,-8⟩, ⟨8072,1,8,-8⟩, ⟨8088,1,8,-8⟩,
  ⟨8104,1,8,-8⟩, ⟨8120,1,2,-8⟩, ⟨8122,1,2,-74⟩, ⟨8124,1,1,-9⟩, ⟨8136,1,4,-86⟩, ⟨8140,1,1,-9⟩,
  ⟨8152,1,2,-8⟩, ⟨8154,1,2,-100⟩, ⟨8168,1,2,-8⟩, ⟨8170,1,2,-112⟩, ⟨8172,1,1,-7⟩, ⟨8184,1,2,-128⟩,
  ⟨8186,1,2,-126⟩, ⟨8188,1,1,-9⟩, ⟨8486,1,1,-7517⟩, ⟨8490,1,1,-8383⟩, ⟨8491,1,1,-8262⟩,
  ⟨8498,1,1,28⟩, ⟨8544,1,16,16⟩, ⟨8579,1,1,1⟩, ⟨9398,1,26,26⟩, ⟨11264,1,48,48⟩, ⟨11360,1,1,1⟩,
  ⟨11362,1,1,-10743⟩, ⟨11363,1,1,-3814⟩, ⟨11364,1,1,-10727⟩, ⟨11367,2,3,1⟩, ⟨11373,1,1,-10780⟩,
  ⟨11374,1,1,-10749⟩, ⟨11375,1,1,-10783⟩, ⟨11376,1,1,-10782⟩, ⟨11378,1,1,1⟩, ⟨11381,1,1,1⟩,
  ⟨11390,1,2,-10815⟩, ⟨11392,2,50,1⟩, ⟨11499,2,2,1⟩, ⟨11506,1,1,1⟩, ⟨42560,2,23,1⟩, ⟨42624,2,14,1⟩,
  ⟨42786,2,7,1⟩, ⟨42802,2,31,1⟩, ⟨42873,2,2,1⟩, ⟨42877,1,1,-35332⟩, ⟨42878,2,5,1⟩, ⟨42891,1,1,1⟩,
  ⟨42893,1,1,-42280⟩, ⟨42896,2,2,1⟩, ⟨42902,2,10,1⟩, ⟨42922,1,1,-42308⟩, ⟨42923,1,1,-42319⟩,
  ⟨42924,1,1,-42315⟩, ⟨42925,1,1,-42305⟩, ⟨42926,1,1,-42308⟩, ⟨42928,1,1,-42258⟩,
  ⟨42929,1,1,-42282⟩, ⟨42930,1,1,-42261⟩, ⟨42931,1,1,928⟩, ⟨42932,2,8,1⟩, ⟨42948,1,1,-48⟩,
  ⟨42949,1,1,-42307⟩, ⟨42950,1,1,-35384⟩, ⟨42951,2,2,1⟩, ⟨42960,1,1,1⟩, ⟨42966,2,2,1⟩,
  ⟨42997,1,1,1⟩, ⟨65313,1,26,32⟩, ⟨66560,1,40,40⟩, ⟨66736,1,36,40⟩, ⟨66928,1,11,39⟩,
  ⟨66940,1,15,39⟩, ⟨66956,1,7,39⟩, ⟨66964,1,2,39⟩, ⟨68736,1,51,64⟩, ⟨71840,1,32,32⟩,
  ⟨93760,1,32,32⟩, ⟨125184,1,34,34⟩]

def siblingClasses : List (List Nat) := [
  [105, 305], [115, 383], [181, 956], [837, 953, 8126], [912, 8147], [944, 8163], [946, 976],
  [949, 1013], [952, 977], [954, 1008], [960, 982], [961, 1009], [962, 963], [966, 981],
  [1074, 7296], [1076, 7297], [1086, 7298], [1089, 7299], [1090, 7300, 7301], [1098, 7302],
  [1123, 7303], [7304, 42571], [7777, 7835], [64261, 64262]]

def lowerAscii (c : Nat) : Nat := if 65 ≤ c && c ≤ 90 then c + 32 else c

def lower (c : Nat) : Nat :=
  if c < 128 then lowerAscii c
  else match caseRuns.find? (·.contains c) with
    | some r => r.apply c
    | none => c

def siblings (c : Nat) : List Nat :=
  match siblingClasses.find? (·.contains c) with
  | some cls => cls.filter (· != c)
  | none => []

def uppers (c : Nat) : List Nat :=
  (if 97 ≤ c && c ≤ 122 then [c - 32] else []) ++ caseRuns.toList.filterMap (·.preimage? c)

def wideUppers : List (Nat × List Nat) := [
  (223, [83, 83]), (329, [700, 78]), (496, [74, 780]), (64256, [70, 70]), (64257, [70, 73]),
  (64258, [70, 76]), (64259, [70, 70, 73]), (64260, [70, 70, 76]), (64261, [83, 84]),
  (64262, [83, 84])]

/-- The upper case of a code point: of several candidates the least, and of a letter without one that of
a letter with the same upper case. -/
def upper (c : Nat) : List Nat :=
  match wideUppers.lookup c, uppers c, (siblings c).flatMap uppers with
  | some cs, _, _ => cs
  | none, u :: _, _ => [u]
  | none, [], u :: _ => [u]
  | none, [], [] => [c]

def lowercase (text : String) : String :=
  String.ofList (text.toList.map fun c => Char.ofNat (lower c.toNat))

def uppercase (text : String) : String :=
  String.ofList (text.toList.flatMap fun c => (upper c.toNat).map Char.ofNat)

end StackQuery.Text
