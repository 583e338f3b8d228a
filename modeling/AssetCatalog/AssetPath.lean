import AssetCatalog.Unicode.Case

/-! Texts that look like the path of an asset. -/

namespace AssetCatalog.AssetPath

/-- The directories at the root that usually hold assets. -/
def directories : List Text :=
  ["/images/", "/css/", "/js/", "/fonts/", "/lib/", "/assets/"]

/-- The extensions that assets usually have. -/
def extensions : List Text :=
  [".css", ".js", ".png", ".jpg", ".jpeg", ".gif", ".svg", ".webp", ".ico", ".woff", ".woff2", ".ttf", ".eot"]

/-- Whether a text starts at the root and has an asset directory or an asset extension, in any case. -/
def isLike (value : Text) : Bool :=
  value.head? = some '/' &&
    (directories.any (Text.startsWith value.lowerCase) || extensions.any (Text.endsWith value.lowerCase))

end AssetCatalog.AssetPath
