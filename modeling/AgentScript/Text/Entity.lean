set_option autoImplicit false

/-! # Entities

Markup can write any character as an entity: between an ampersand and a semicolon stand its name or,
after a hash, its number. Only some characters have a name. -/

namespace AgentScript.Text

/-- The names of characters, by code point in ascending order. -/
def entityNames : List (Nat × String) :=
  [(0x22, "quot"), (0x26, "amp"), (0x3C, "lt"), (0x3E, "gt"), (0xA0, "nbsp"), (0xA1, "iexcl"),
   (0xA2, "cent"), (0xA3, "pound"), (0xA4, "curren"), (0xA5, "yen"), (0xA6, "brvbar"),
   (0xA7, "sect"), (0xA8, "uml"), (0xA9, "copy"), (0xAA, "ordf"), (0xAB, "laquo"), (0xAC, "not"),
   (0xAD, "shy"), (0xAE, "reg"), (0xAF, "macr"), (0xB0, "deg"), (0xB1, "plusmn"), (0xB2, "sup2"),
   (0xB3, "sup3"), (0xB4, "acute"), (0xB5, "micro"), (0xB6, "para"), (0xB7, "middot"),
   (0xB8, "cedil"), (0xB9, "sup1"), (0xBA, "ordm"), (0xBB, "raquo"), (0xBC, "frac14"),
   (0xBD, "frac12"), (0xBE, "frac34"), (0xBF, "iquest"), (0xC0, "Agrave"), (0xC1, "Aacute"),
   (0xC2, "Acirc"), (0xC3, "Atilde"), (0xC4, "Auml"), (0xC5, "Aring"), (0xC6, "AElig"),
   (0xC7, "Ccedil"), (0xC8, "Egrave"), (0xC9, "Eacute"), (0xCA, "Ecirc"), (0xCB, "Euml"),
   (0xCC, "Igrave"), (0xCD, "Iacute"), (0xCE, "Icirc"), (0xCF, "Iuml"), (0xD0, "ETH"),
   (0xD1, "Ntilde"), (0xD2, "Ograve"), (0xD3, "Oacute"), (0xD4, "Ocirc"), (0xD5, "Otilde"),
   (0xD6, "Ouml"), (0xD7, "times"), (0xD8, "Oslash"), (0xD9, "Ugrave"), (0xDA, "Uacute"),
   (0xDB, "Ucirc"), (0xDC, "Uuml"), (0xDD, "Yacute"), (0xDE, "THORN"), (0xDF, "szlig"),
   (0xE0, "agrave"), (0xE1, "aacute"), (0xE2, "acirc"), (0xE3, "atilde"), (0xE4, "auml"),
   (0xE5, "aring"), (0xE6, "aelig"), (0xE7, "ccedil"), (0xE8, "egrave"), (0xE9, "eacute"),
   (0xEA, "ecirc"), (0xEB, "euml"), (0xEC, "igrave"), (0xED, "iacute"), (0xEE, "icirc"),
   (0xEF, "iuml"), (0xF0, "eth"), (0xF1, "ntilde"), (0xF2, "ograve"), (0xF3, "oacute"),
   (0xF4, "ocirc"), (0xF5, "otilde"), (0xF6, "ouml"), (0xF7, "divide"), (0xF8, "oslash"),
   (0xF9, "ugrave"), (0xFA, "uacute"), (0xFB, "ucirc"), (0xFC, "uuml"), (0xFD, "yacute"),
   (0xFE, "thorn"), (0xFF, "yuml"), (0x152, "OElig"), (0x153, "oelig"), (0x160, "Scaron"),
   (0x161, "scaron"), (0x178, "Yuml"), (0x192, "fnof"), (0x2C6, "circ"), (0x2DC, "tilde"),
   (0x391, "Alpha"), (0x392, "Beta"), (0x393, "Gamma"), (0x394, "Delta"), (0x395, "Epsilon"),
   (0x396, "Zeta"), (0x397, "Eta"), (0x398, "Theta"), (0x399, "Iota"), (0x39A, "Kappa"),
   (0x39B, "Lambda"), (0x39C, "Mu"), (0x39D, "Nu"), (0x39E, "Xi"), (0x39F, "Omicron"),
   (0x3A0, "Pi"), (0x3A1, "Rho"), (0x3A3, "Sigma"), (0x3A4, "Tau"), (0x3A5, "Upsilon"),
   (0x3A6, "Phi"), (0x3A7, "Chi"), (0x3A8, "Psi"), (0x3A9, "Omega"), (0x3B1, "alpha"),
   (0x3B2, "beta"), (0x3B3, "gamma"), (0x3B4, "delta"), (0x3B5, "epsilon"), (0x3B6, "zeta"),
   (0x3B7, "eta"), (0x3B8, "theta"), (0x3B9, "iota"), (0x3BA, "kappa"), (0x3BB, "lambda"),
   (0x3BC, "mu"), (0x3BD, "nu"), (0x3BE, "xi"), (0x3BF, "omicron"), (0x3C0, "pi"),
   (0x3C1, "rho"), (0x3C2, "sigmaf"), (0x3C3, "sigma"), (0x3C4, "tau"), (0x3C5, "upsilon"),
   (0x3C6, "phi"), (0x3C7, "chi"), (0x3C8, "psi"), (0x3C9, "omega"), (0x3D1, "thetasym"),
   (0x3D2, "upsih"), (0x3D6, "piv"), (0x2002, "ensp"), (0x2003, "emsp"), (0x2009, "thinsp"),
   (0x200C, "zwnj"), (0x200D, "zwj"), (0x200E, "lrm"), (0x200F, "rlm"), (0x2013, "ndash"),
   (0x2014, "mdash"), (0x2018, "lsquo"), (0x2019, "rsquo"), (0x201A, "sbquo"), (0x201C, "ldquo"),
   (0x201D, "rdquo"), (0x201E, "bdquo"), (0x2020, "dagger"), (0x2021, "Dagger"),
   (0x2022, "bull"), (0x2026, "hellip"), (0x2030, "permil"), (0x2032, "prime"),
   (0x2033, "Prime"), (0x2039, "lsaquo"), (0x203A, "rsaquo"), (0x203E, "oline"),
   (0x2044, "frasl"), (0x20AC, "euro"), (0x2111, "image"), (0x2118, "weierp"), (0x211C, "real"),
   (0x2122, "trade"), (0x2135, "alefsym"), (0x2190, "larr"), (0x2191, "uarr"), (0x2192, "rarr"),
   (0x2193, "darr"), (0x2194, "harr"), (0x21B5, "crarr"), (0x21D0, "lArr"), (0x21D1, "uArr"),
   (0x21D2, "rArr"), (0x21D3, "dArr"), (0x21D4, "hArr"), (0x2200, "forall"), (0x2202, "part"),
   (0x2203, "exist"), (0x2205, "empty"), (0x2207, "nabla"), (0x2208, "isin"), (0x2209, "notin"),
   (0x220B, "ni"), (0x220F, "prod"), (0x2211, "sum"), (0x2212, "minus"), (0x2217, "lowast"),
   (0x221A, "radic"), (0x221D, "prop"), (0x221E, "infin"), (0x2220, "ang"), (0x2227, "and"),
   (0x2228, "or"), (0x2229, "cap"), (0x222A, "cup"), (0x222B, "int"), (0x2234, "there4"),
   (0x223C, "sim"), (0x2245, "cong"), (0x2248, "asymp"), (0x2260, "ne"), (0x2261, "equiv"),
   (0x2264, "le"), (0x2265, "ge"), (0x2282, "sub"), (0x2283, "sup"), (0x2284, "nsub"),
   (0x2286, "sube"), (0x2287, "supe"), (0x2295, "oplus"), (0x2297, "otimes"), (0x22A5, "perp"),
   (0x22C5, "sdot"), (0x2308, "lceil"), (0x2309, "rceil"), (0x230A, "lfloor"),
   (0x230B, "rfloor"), (0x2329, "lang"), (0x232A, "rang"), (0x25CA, "loz"), (0x2660, "spades"),
   (0x2663, "clubs"), (0x2665, "hearts"), (0x2666, "diams")]

/-- The entity that writes `c` by its number. -/
def numericEntity (c : Char) : List Char :=
  '&' :: '#' :: (toString c.toNat).toList ++ [';']

/-- The entity that writes `c` by its name, or by its number if it has none. -/
def namedEntity (c : Char) : List Char :=
  match entityNames.find? fun entry => entry.1 == c.toNat with
  | some (_, name) => '&' :: name.toList ++ [';']
  | none => numericEntity c

end AgentScript.Text
