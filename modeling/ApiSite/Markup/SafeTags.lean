import ApiSite.Text.Basic

/-!
The tags that documentation may use on a page when a project does not say otherwise.
-/

set_option autoImplicit false

namespace ApiSite.Markup

/-- Tags that give structure, format text or show pictures, and run nothing. -/
def defaultSafeTags : List Text := Text.ofStrings
  ["div", "section", "article", "aside", "header", "footer", "nav", "main", "figure", "figcaption",
    "details", "summary", "address", "dialog", "span", "em", "strong", "b", "i", "u", "s", "del",
    "ins", "mark", "sub", "sup", "small", "abbr", "cite", "q", "dfn", "kbd", "var", "samp", "time",
    "p", "blockquote", "a", "img", "iframe", "picture", "source", "ul", "ol", "li", "dl", "dt",
    "dd", "table", "thead", "tbody", "tfoot", "tr", "th", "td", "caption", "colgroup", "col",
    "pre", "code", "br", "hr", "wbr", "h1", "h2", "h3", "h4", "h5", "h6"]

end ApiSite.Markup
