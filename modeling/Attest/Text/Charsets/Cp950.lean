import Attest.Text.Charset

/-!
# Code Page 950

The characters in which code page 950 differs from Big5, by two bytes.

## Main definitions

* `cp950Additions`: The characters in which code page 950 differs from Big5.
-/

namespace Attest

namespace Text

namespace Charsets

/-- The characters in which code page 950 differs from Big5. -/
def cp950Additions : Charset :=
  ⟨[.row 0xa145 "‧",
    .row 0xa14e "﹑",
    .row 0xa1c2 "¯",
    .row 0xa1e3 "～",
    .row 0xa1f2 "⊕⊙",
    .row 0xa241 "∕﹨\ufffd￥\ufffd￠￡",
    .row 0xa3e1 "€",
    .row 0xf9d6 "碁銹裏墻恒粧嫺╔╦╗╠╬╣╚╩╝╒╤╕╞╪╡╘╧╛╓╥╖╟╫╢╙╨╜║═╭╮╰╯▓"]⟩

end Charsets

end Text

end Attest
