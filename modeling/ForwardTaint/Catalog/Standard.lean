import ForwardTaint.Catalog.Catalog

/-!
The catalog for forwards in web applications.
-/

namespace ForwardTaint.Catalog

/-- A source with a method name. -/
def sourceEntry (method description : String) : CatalogEntrySpec :=
  ⟨"source", some method, none, none, none, [], none, some description⟩

/-- A sink with a method name. -/
def sinkEntry (method : String) (argument : Nat) (description : String) : CatalogEntrySpec :=
  ⟨"sink", some method, none, none, none, [argument], none, some description⟩

/-- A sanitizer with a method name. -/
def sanitizerEntry (kind method : String) : CatalogEntrySpec :=
  ⟨"sanitizer", some method, none, none, none, [], some kind, none⟩

/-- The written form of the standard catalog. -/
def standardSpec : CatalogSpec where
  version := catalogVersion
  handler := .standard
  entries := [
    sourceEntry "getParameter" "request parameter",
    sourceEntry "getParameterValues" "request parameter values",
    sourceEntry "getServletPath" "servlet path of the request",
    sourceEntry "getPathInfo" "extra path info of the request",
    sourceEntry "getRequestURI" "request URI",
    sourceEntry "getHeader" "request header",
    sourceEntry "getQueryString" "raw query string",
    sinkEntry "getRequestDispatcher" 0 "request dispatcher path (request or servlet context)",
    sinkEntry "StaplerResponse.forward" 1 "Stapler forward target",
    sinkEntry "setViewName" 0 "Spring view name",
    ⟨"sink", none, none, some "ModelAndView", none, [0], none, some "Spring view name"⟩,
    sanitizerEntry "decode" "URLDecoder.decode",
    sanitizerEntry "decode" "decode",
    sanitizerEntry "normalize" "normalize",
    ⟨"sanitizer", none, some "^to(Lower|Upper)Case$", none, none, [], some "case_fold", none⟩]

/-- The catalog without entries. -/
def empty : Catalog := ⟨⟨catalogVersion, .standard, []⟩, []⟩

/-- The standard catalog. -/
def standard : Catalog := (compile standardSpec).toOption.getD empty

end ForwardTaint.Catalog
