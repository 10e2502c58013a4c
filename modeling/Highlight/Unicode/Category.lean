import Highlight.Unicode.Bisect
import Highlight.Unicode.Category.Runs

/-!
# `Highlight.Unicode.Category`: general categories and their names

* `Category.of c` is the general category of the code point `c`.
* `Category.named? name` lists the categories that a property name stands for: one for a
  leaf such as `lu`, several for a group such as `l` or `punctuation`.
-/

set_option autoImplicit false

namespace Highlight.Unicode.Category

/-- The general category of a code point. Numbers beyond the code space are unassigned. -/
def of (c : Nat) : Category :=
  if c ≤ 0x10FFFF then (lastRun? runs c).getD .cn else .cn

/-- The letters. -/
def letters : List Category := [.lu, .ll, .lt, .lm, .lo]

/-- The marks. -/
def marks : List Category := [.mn, .mc, .me]

/-- The numbers. -/
def numbers : List Category := [.nd, .nl, .no]

/-- The punctuation. -/
def punctuation : List Category := [.pc, .pd, .ps, .pe, .pi, .pf, .po]

/-- The symbols. -/
def symbols : List Category := [.sm, .sc, .sk, .so]

/-- The separators. -/
def separators : List Category := [.zs, .zl, .zp]

/-- Everything else. -/
def others : List Category := [.cc, .cf, .cs, .co, .cn]

/-- The short and long names of the categories and of their groups, in lower case and
without separators. -/
def names : List (List String × List Category) := [
  (["l", "letter"], letters),
  (["lc", "casedletter"], [.lu, .ll, .lt]),
  (["lu", "uppercaseletter"], [.lu]),
  (["ll", "lowercaseletter"], [.ll]),
  (["lt", "titlecaseletter"], [.lt]),
  (["lm", "modifierletter"], [.lm]),
  (["lo", "otherletter"], [.lo]),
  (["m", "mark", "combiningmark"], marks),
  (["mn", "nonspacingmark"], [.mn]),
  (["mc", "spacingmark"], [.mc]),
  (["me", "enclosingmark"], [.me]),
  (["n", "number"], numbers),
  (["nd", "decimalnumber"], [.nd]),
  (["nl", "letternumber"], [.nl]),
  (["no", "othernumber"], [.no]),
  (["p", "punctuation", "punct"], punctuation),
  (["pc", "connectorpunctuation"], [.pc]),
  (["pd", "dashpunctuation"], [.pd]),
  (["ps", "openpunctuation"], [.ps]),
  (["pe", "closepunctuation"], [.pe]),
  (["pi", "initialpunctuation"], [.pi]),
  (["pf", "finalpunctuation"], [.pf]),
  (["po", "otherpunctuation"], [.po]),
  (["s", "symbol"], symbols),
  (["sm", "mathsymbol"], [.sm]),
  (["sc", "currencysymbol"], [.sc]),
  (["sk", "modifiersymbol"], [.sk]),
  (["so", "othersymbol"], [.so]),
  (["z", "separator"], separators),
  (["zs", "spaceseparator"], [.zs]),
  (["zl", "lineseparator"], [.zl]),
  (["zp", "paragraphseparator"], [.zp]),
  (["c", "other"], others),
  (["cc", "control"], [.cc]),
  (["cf", "format"], [.cf]),
  (["cs", "surrogate"], [.cs]),
  (["co", "privateuse"], [.co]),
  (["cn", "unassigned"], [.cn])]

/-- The categories that a property name stands for. -/
def named? (name : String) : Option (List Category) :=
  (names.find? fun entry => entry.1.contains name).map (·.2)

end Highlight.Unicode.Category
