/-!
# Further named characters

The other names of HTML 5, by what they stand for: one character, or a character with
a mark that is combined with it.
-/

namespace NoteLinks.Html

/-- Latin letters and accents. -/
def latinNames : List (String × Nat) :=
  [("Dot", 0xA8), ("DoubleDot", 0xA8), ("die", 0xA8), ("circledR", 0xAE), ("strns", 0xAF),
    ("PlusMinus", 0xB1), ("pm", 0xB1), ("DiacriticalAcute", 0xB4), ("CenterDot", 0xB7),
    ("centerdot", 0xB7), ("Cedilla", 0xB8), ("half", 0xBD), ("angst", 0xC5), ("div", 0xF7),
    ("Amacr", 0x100), ("amacr", 0x101), ("Abreve", 0x102), ("abreve", 0x103), ("Aogon", 0x104),
    ("aogon", 0x105), ("Cacute", 0x106), ("cacute", 0x107), ("Ccirc", 0x108), ("ccirc", 0x109),
    ("Cdot", 0x10A), ("cdot", 0x10B), ("Ccaron", 0x10C), ("ccaron", 0x10D), ("Dcaron", 0x10E),
    ("dcaron", 0x10F), ("Dstrok", 0x110), ("dstrok", 0x111), ("Emacr", 0x112), ("emacr", 0x113),
    ("Edot", 0x116), ("edot", 0x117), ("Eogon", 0x118), ("eogon", 0x119), ("Ecaron", 0x11A),
    ("ecaron", 0x11B), ("Gcirc", 0x11C), ("gcirc", 0x11D), ("Gbreve", 0x11E), ("gbreve", 0x11F),
    ("Gdot", 0x120), ("gdot", 0x121), ("Gcedil", 0x122), ("Hcirc", 0x124), ("hcirc", 0x125),
    ("Hstrok", 0x126), ("hstrok", 0x127), ("Itilde", 0x128), ("itilde", 0x129), ("Imacr", 0x12A),
    ("imacr", 0x12B), ("Iogon", 0x12E), ("iogon", 0x12F), ("Idot", 0x130), ("imath", 0x131),
    ("inodot", 0x131), ("IJlig", 0x132), ("ijlig", 0x133), ("Jcirc", 0x134), ("jcirc", 0x135),
    ("Kcedil", 0x136), ("kcedil", 0x137), ("kgreen", 0x138), ("Lacute", 0x139), ("lacute", 0x13A),
    ("Lcedil", 0x13B), ("lcedil", 0x13C), ("Lcaron", 0x13D), ("lcaron", 0x13E), ("Lmidot", 0x13F),
    ("lmidot", 0x140), ("Lstrok", 0x141), ("lstrok", 0x142), ("Nacute", 0x143), ("nacute", 0x144),
    ("Ncedil", 0x145), ("ncedil", 0x146), ("Ncaron", 0x147), ("ncaron", 0x148), ("napos", 0x149),
    ("ENG", 0x14A), ("eng", 0x14B), ("Omacr", 0x14C), ("omacr", 0x14D), ("Odblac", 0x150),
    ("odblac", 0x151), ("Racute", 0x154), ("racute", 0x155), ("Rcedil", 0x156), ("rcedil", 0x157),
    ("Rcaron", 0x158), ("rcaron", 0x159), ("Sacute", 0x15A), ("sacute", 0x15B), ("Scirc", 0x15C),
    ("scirc", 0x15D), ("Scedil", 0x15E), ("scedil", 0x15F), ("Tcedil", 0x162), ("tcedil", 0x163),
    ("Tcaron", 0x164), ("tcaron", 0x165), ("Tstrok", 0x166), ("tstrok", 0x167), ("Utilde", 0x168),
    ("utilde", 0x169), ("Umacr", 0x16A), ("umacr", 0x16B), ("Ubreve", 0x16C), ("ubreve", 0x16D),
    ("Uring", 0x16E), ("uring", 0x16F), ("Udblac", 0x170), ("udblac", 0x171), ("Uogon", 0x172),
    ("uogon", 0x173), ("Wcirc", 0x174), ("wcirc", 0x175), ("Ycirc", 0x176), ("ycirc", 0x177),
    ("Zacute", 0x179), ("zacute", 0x17A), ("Zdot", 0x17B), ("zdot", 0x17C), ("Zcaron", 0x17D),
    ("zcaron", 0x17E), ("imped", 0x1B5), ("gacute", 0x1F5), ("jmath", 0x237), ("Hacek", 0x2C7),
    ("caron", 0x2C7), ("Breve", 0x2D8), ("breve", 0x2D8), ("DiacriticalDot", 0x2D9),
    ("dot", 0x2D9), ("ring", 0x2DA), ("ogon", 0x2DB), ("DiacriticalTilde", 0x2DC),
    ("DiacriticalDoubleAcute", 0x2DD), ("dblac", 0x2DD), ("DownBreve", 0x311)]

/-- Greek and Cyrillic letters. -/
def greekNames : List (String × Nat) :=
  [("ohm", 0x3A9), ("epsi", 0x3B5), ("sigmav", 0x3C2), ("varsigma", 0x3C2), ("upsi", 0x3C5),
    ("thetav", 0x3D1), ("vartheta", 0x3D1), ("Upsi", 0x3D2), ("phiv", 0x3D5),
    ("straightphi", 0x3D5), ("varphi", 0x3D5), ("varpi", 0x3D6), ("Gammad", 0x3DC),
    ("digamma", 0x3DD), ("gammad", 0x3DD), ("kappav", 0x3F0), ("varkappa", 0x3F0), ("rhov", 0x3F1),
    ("varrho", 0x3F1), ("epsiv", 0x3F5), ("straightepsilon", 0x3F5), ("varepsilon", 0x3F5),
    ("backepsilon", 0x3F6), ("bepsi", 0x3F6), ("IOcy", 0x401), ("DJcy", 0x402), ("GJcy", 0x403),
    ("Jukcy", 0x404), ("DScy", 0x405), ("Iukcy", 0x406), ("YIcy", 0x407), ("Jsercy", 0x408),
    ("LJcy", 0x409), ("NJcy", 0x40A), ("TSHcy", 0x40B), ("KJcy", 0x40C), ("Ubrcy", 0x40E),
    ("DZcy", 0x40F), ("Acy", 0x410), ("Bcy", 0x411), ("Vcy", 0x412), ("Gcy", 0x413),
    ("Dcy", 0x414), ("IEcy", 0x415), ("ZHcy", 0x416), ("Zcy", 0x417), ("Icy", 0x418),
    ("Jcy", 0x419), ("Kcy", 0x41A), ("Lcy", 0x41B), ("Mcy", 0x41C), ("Ncy", 0x41D), ("Ocy", 0x41E),
    ("Pcy", 0x41F), ("Rcy", 0x420), ("Scy", 0x421), ("Tcy", 0x422), ("Ucy", 0x423), ("Fcy", 0x424),
    ("KHcy", 0x425), ("TScy", 0x426), ("CHcy", 0x427), ("SHcy", 0x428), ("SHCHcy", 0x429),
    ("HARDcy", 0x42A), ("Ycy", 0x42B), ("SOFTcy", 0x42C), ("Ecy", 0x42D), ("YUcy", 0x42E),
    ("YAcy", 0x42F), ("acy", 0x430), ("bcy", 0x431), ("vcy", 0x432), ("gcy", 0x433),
    ("dcy", 0x434), ("iecy", 0x435), ("zhcy", 0x436), ("zcy", 0x437), ("icy", 0x438),
    ("jcy", 0x439), ("kcy", 0x43A), ("lcy", 0x43B), ("mcy", 0x43C), ("ncy", 0x43D), ("ocy", 0x43E),
    ("pcy", 0x43F), ("rcy", 0x440), ("scy", 0x441), ("tcy", 0x442), ("ucy", 0x443), ("fcy", 0x444),
    ("khcy", 0x445), ("tscy", 0x446), ("chcy", 0x447), ("shcy", 0x448), ("shchcy", 0x449),
    ("hardcy", 0x44A), ("ycy", 0x44B), ("softcy", 0x44C), ("ecy", 0x44D), ("yucy", 0x44E),
    ("yacy", 0x44F), ("iocy", 0x451), ("djcy", 0x452), ("gjcy", 0x453), ("jukcy", 0x454),
    ("dscy", 0x455), ("iukcy", 0x456), ("yicy", 0x457), ("jsercy", 0x458), ("ljcy", 0x459),
    ("njcy", 0x45A), ("tshcy", 0x45B), ("kjcy", 0x45C), ("ubrcy", 0x45E), ("dzcy", 0x45F)]

/-- Punctuation, letters used as signs, and fractions. -/
def signNames : List (String × Nat) :=
  [("emsp13", 0x2004), ("emsp14", 0x2005), ("numsp", 0x2007), ("puncsp", 0x2008),
    ("ThinSpace", 0x2009), ("VeryThinSpace", 0x200A), ("hairsp", 0x200A),
    ("NegativeMediumSpace", 0x200B), ("NegativeThickSpace", 0x200B), ("NegativeThinSpace", 0x200B),
    ("NegativeVeryThinSpace", 0x200B), ("ZeroWidthSpace", 0x200B), ("dash", 0x2010),
    ("hyphen", 0x2010), ("horbar", 0x2015), ("Verbar", 0x2016), ("Vert", 0x2016),
    ("OpenCurlyQuote", 0x2018), ("CloseCurlyQuote", 0x2019), ("rsquor", 0x2019),
    ("lsquor", 0x201A), ("OpenCurlyDoubleQuote", 0x201C), ("CloseCurlyDoubleQuote", 0x201D),
    ("rdquor", 0x201D), ("ldquor", 0x201E), ("ddagger", 0x2021), ("bullet", 0x2022),
    ("nldr", 0x2025), ("mldr", 0x2026), ("pertenk", 0x2031), ("tprime", 0x2034),
    ("backprime", 0x2035), ("bprime", 0x2035), ("OverBar", 0x203E), ("caret", 0x2041),
    ("hybull", 0x2043), ("bsemi", 0x204F), ("qprime", 0x2057), ("MediumSpace", 0x205F),
    ("NoBreak", 0x2060), ("ApplyFunction", 0x2061), ("af", 0x2061), ("InvisibleTimes", 0x2062),
    ("it", 0x2062), ("InvisibleComma", 0x2063), ("ic", 0x2063), ("TripleDot", 0x20DB),
    ("tdot", 0x20DB), ("DotDot", 0x20DC), ("Copf", 0x2102), ("complexes", 0x2102),
    ("incare", 0x2105), ("gscr", 0x210A), ("HilbertSpace", 0x210B), ("Hscr", 0x210B),
    ("hamilt", 0x210B), ("Hfr", 0x210C), ("Poincareplane", 0x210C), ("Hopf", 0x210D),
    ("quaternions", 0x210D), ("planckh", 0x210E), ("hbar", 0x210F), ("hslash", 0x210F),
    ("planck", 0x210F), ("plankv", 0x210F), ("Iscr", 0x2110), ("imagline", 0x2110),
    ("Ifr", 0x2111), ("Im", 0x2111), ("imagpart", 0x2111), ("Laplacetrf", 0x2112),
    ("Lscr", 0x2112), ("lagran", 0x2112), ("ell", 0x2113), ("Nopf", 0x2115), ("naturals", 0x2115),
    ("numero", 0x2116), ("copysr", 0x2117), ("wp", 0x2118), ("Popf", 0x2119), ("primes", 0x2119),
    ("Qopf", 0x211A), ("rationals", 0x211A), ("Rscr", 0x211B), ("realine", 0x211B), ("Re", 0x211C),
    ("Rfr", 0x211C), ("realpart", 0x211C), ("Ropf", 0x211D), ("reals", 0x211D), ("rx", 0x211E),
    ("Zopf", 0x2124), ("integers", 0x2124), ("mho", 0x2127), ("Zfr", 0x2128), ("zeetrf", 0x2128),
    ("iiota", 0x2129), ("Bernoullis", 0x212C), ("Bscr", 0x212C), ("bernou", 0x212C),
    ("Cayleys", 0x212D), ("Cfr", 0x212D), ("escr", 0x212F), ("Escr", 0x2130),
    ("expectation", 0x2130), ("Fouriertrf", 0x2131), ("Fscr", 0x2131), ("Mellintrf", 0x2133),
    ("Mscr", 0x2133), ("phmmat", 0x2133), ("order", 0x2134), ("orderof", 0x2134), ("oscr", 0x2134),
    ("aleph", 0x2135), ("beth", 0x2136), ("gimel", 0x2137), ("daleth", 0x2138),
    ("CapitalDifferentialD", 0x2145), ("DD", 0x2145), ("DifferentialD", 0x2146), ("dd", 0x2146),
    ("ExponentialE", 0x2147), ("ee", 0x2147), ("exponentiale", 0x2147), ("ImaginaryI", 0x2148),
    ("ii", 0x2148), ("frac13", 0x2153), ("frac23", 0x2154), ("frac15", 0x2155), ("frac25", 0x2156),
    ("frac35", 0x2157), ("frac45", 0x2158), ("frac16", 0x2159), ("frac56", 0x215A),
    ("frac18", 0x215B), ("frac38", 0x215C), ("frac58", 0x215D), ("frac78", 0x215E)]

/-- Arrows. -/
def arrowNames : List (String × Nat) :=
  [("LeftArrow", 0x2190), ("ShortLeftArrow", 0x2190), ("leftarrow", 0x2190), ("slarr", 0x2190),
    ("ShortUpArrow", 0x2191), ("UpArrow", 0x2191), ("uparrow", 0x2191), ("RightArrow", 0x2192),
    ("ShortRightArrow", 0x2192), ("rightarrow", 0x2192), ("srarr", 0x2192), ("DownArrow", 0x2193),
    ("ShortDownArrow", 0x2193), ("downarrow", 0x2193), ("LeftRightArrow", 0x2194),
    ("leftrightarrow", 0x2194), ("UpDownArrow", 0x2195), ("updownarrow", 0x2195), ("varr", 0x2195),
    ("UpperLeftArrow", 0x2196), ("nwarr", 0x2196), ("nwarrow", 0x2196),
    ("UpperRightArrow", 0x2197), ("nearr", 0x2197), ("nearrow", 0x2197),
    ("LowerRightArrow", 0x2198), ("searr", 0x2198), ("searrow", 0x2198),
    ("LowerLeftArrow", 0x2199), ("swarr", 0x2199), ("swarrow", 0x2199), ("nlarr", 0x219A),
    ("nleftarrow", 0x219A), ("nrarr", 0x219B), ("nrightarrow", 0x219B), ("rarrw", 0x219D),
    ("rightsquigarrow", 0x219D), ("Larr", 0x219E), ("twoheadleftarrow", 0x219E), ("Uarr", 0x219F),
    ("Rarr", 0x21A0), ("twoheadrightarrow", 0x21A0), ("Darr", 0x21A1), ("larrtl", 0x21A2),
    ("leftarrowtail", 0x21A2), ("rarrtl", 0x21A3), ("rightarrowtail", 0x21A3),
    ("LeftTeeArrow", 0x21A4), ("mapstoleft", 0x21A4), ("UpTeeArrow", 0x21A5), ("mapstoup", 0x21A5),
    ("RightTeeArrow", 0x21A6), ("map", 0x21A6), ("mapsto", 0x21A6), ("DownTeeArrow", 0x21A7),
    ("mapstodown", 0x21A7), ("hookleftarrow", 0x21A9), ("larrhk", 0x21A9),
    ("hookrightarrow", 0x21AA), ("rarrhk", 0x21AA), ("larrlp", 0x21AB), ("looparrowleft", 0x21AB),
    ("looparrowright", 0x21AC), ("rarrlp", 0x21AC), ("harrw", 0x21AD),
    ("leftrightsquigarrow", 0x21AD), ("nharr", 0x21AE), ("nleftrightarrow", 0x21AE),
    ("Lsh", 0x21B0), ("lsh", 0x21B0), ("Rsh", 0x21B1), ("rsh", 0x21B1), ("ldsh", 0x21B2),
    ("rdsh", 0x21B3), ("cularr", 0x21B6), ("curvearrowleft", 0x21B6), ("curarr", 0x21B7),
    ("curvearrowright", 0x21B7), ("circlearrowleft", 0x21BA), ("olarr", 0x21BA),
    ("circlearrowright", 0x21BB), ("orarr", 0x21BB), ("LeftVector", 0x21BC),
    ("leftharpoonup", 0x21BC), ("lharu", 0x21BC), ("DownLeftVector", 0x21BD),
    ("leftharpoondown", 0x21BD), ("lhard", 0x21BD), ("RightUpVector", 0x21BE), ("uharr", 0x21BE),
    ("upharpoonright", 0x21BE), ("LeftUpVector", 0x21BF), ("uharl", 0x21BF),
    ("upharpoonleft", 0x21BF), ("RightVector", 0x21C0), ("rharu", 0x21C0),
    ("rightharpoonup", 0x21C0), ("DownRightVector", 0x21C1), ("rhard", 0x21C1),
    ("rightharpoondown", 0x21C1), ("RightDownVector", 0x21C2), ("dharr", 0x21C2),
    ("downharpoonright", 0x21C2), ("LeftDownVector", 0x21C3), ("dharl", 0x21C3),
    ("downharpoonleft", 0x21C3), ("RightArrowLeftArrow", 0x21C4), ("rightleftarrows", 0x21C4),
    ("rlarr", 0x21C4), ("UpArrowDownArrow", 0x21C5), ("udarr", 0x21C5),
    ("LeftArrowRightArrow", 0x21C6), ("leftrightarrows", 0x21C6), ("lrarr", 0x21C6),
    ("leftleftarrows", 0x21C7), ("llarr", 0x21C7), ("upuparrows", 0x21C8), ("uuarr", 0x21C8),
    ("rightrightarrows", 0x21C9), ("rrarr", 0x21C9), ("ddarr", 0x21CA), ("downdownarrows", 0x21CA),
    ("ReverseEquilibrium", 0x21CB), ("leftrightharpoons", 0x21CB), ("lrhar", 0x21CB),
    ("Equilibrium", 0x21CC), ("rightleftharpoons", 0x21CC), ("rlhar", 0x21CC),
    ("nLeftarrow", 0x21CD), ("nlArr", 0x21CD), ("nLeftrightarrow", 0x21CE), ("nhArr", 0x21CE),
    ("nRightarrow", 0x21CF), ("nrArr", 0x21CF), ("DoubleLeftArrow", 0x21D0), ("Leftarrow", 0x21D0),
    ("DoubleUpArrow", 0x21D1), ("Uparrow", 0x21D1), ("DoubleRightArrow", 0x21D2),
    ("Implies", 0x21D2), ("Rightarrow", 0x21D2), ("DoubleDownArrow", 0x21D3),
    ("Downarrow", 0x21D3), ("DoubleLeftRightArrow", 0x21D4), ("Leftrightarrow", 0x21D4),
    ("iff", 0x21D4), ("DoubleUpDownArrow", 0x21D5), ("Updownarrow", 0x21D5), ("vArr", 0x21D5),
    ("nwArr", 0x21D6), ("neArr", 0x21D7), ("seArr", 0x21D8), ("swArr", 0x21D9),
    ("Lleftarrow", 0x21DA), ("lAarr", 0x21DA), ("Rrightarrow", 0x21DB), ("rAarr", 0x21DB),
    ("zigrarr", 0x21DD), ("LeftArrowBar", 0x21E4), ("larrb", 0x21E4), ("RightArrowBar", 0x21E5),
    ("rarrb", 0x21E5), ("DownArrowUpArrow", 0x21F5), ("duarr", 0x21F5), ("loarr", 0x21FD),
    ("roarr", 0x21FE), ("hoarr", 0x21FF)]

/-- Mathematical operators. -/
def operatorNames : List (String × Nat) :=
  [("ForAll", 0x2200), ("comp", 0x2201), ("complement", 0x2201), ("PartialD", 0x2202),
    ("Exists", 0x2203), ("NotExists", 0x2204), ("nexist", 0x2204), ("nexists", 0x2204),
    ("emptyset", 0x2205), ("emptyv", 0x2205), ("varnothing", 0x2205), ("Del", 0x2207),
    ("Element", 0x2208), ("in", 0x2208), ("isinv", 0x2208), ("NotElement", 0x2209),
    ("notinva", 0x2209), ("ReverseElement", 0x220B), ("SuchThat", 0x220B), ("niv", 0x220B),
    ("NotReverseElement", 0x220C), ("notni", 0x220C), ("notniva", 0x220C), ("Product", 0x220F),
    ("Coproduct", 0x2210), ("coprod", 0x2210), ("Sum", 0x2211), ("MinusPlus", 0x2213),
    ("mnplus", 0x2213), ("mp", 0x2213), ("dotplus", 0x2214), ("plusdo", 0x2214),
    ("Backslash", 0x2216), ("setminus", 0x2216), ("setmn", 0x2216), ("smallsetminus", 0x2216),
    ("ssetmn", 0x2216), ("SmallCircle", 0x2218), ("compfn", 0x2218), ("Sqrt", 0x221A),
    ("Proportional", 0x221D), ("propto", 0x221D), ("varpropto", 0x221D), ("vprop", 0x221D),
    ("angrt", 0x221F), ("angle", 0x2220), ("angmsd", 0x2221), ("measuredangle", 0x2221),
    ("angsph", 0x2222), ("VerticalBar", 0x2223), ("mid", 0x2223), ("shortmid", 0x2223),
    ("smid", 0x2223), ("NotVerticalBar", 0x2224), ("nmid", 0x2224), ("nshortmid", 0x2224),
    ("nsmid", 0x2224), ("DoubleVerticalBar", 0x2225), ("par", 0x2225), ("parallel", 0x2225),
    ("shortparallel", 0x2225), ("spar", 0x2225), ("NotDoubleVerticalBar", 0x2226),
    ("npar", 0x2226), ("nparallel", 0x2226), ("nshortparallel", 0x2226), ("nspar", 0x2226),
    ("wedge", 0x2227), ("vee", 0x2228), ("Integral", 0x222B), ("Int", 0x222C), ("iiint", 0x222D),
    ("tint", 0x222D), ("ContourIntegral", 0x222E), ("conint", 0x222E), ("oint", 0x222E),
    ("Conint", 0x222F), ("DoubleContourIntegral", 0x222F), ("Cconint", 0x2230), ("cwint", 0x2231),
    ("ClockwiseContourIntegral", 0x2232), ("cwconint", 0x2232),
    ("CounterClockwiseContourIntegral", 0x2233), ("awconint", 0x2233), ("Therefore", 0x2234),
    ("therefore", 0x2234), ("Because", 0x2235), ("becaus", 0x2235), ("because", 0x2235),
    ("ratio", 0x2236), ("Colon", 0x2237), ("Proportion", 0x2237), ("dotminus", 0x2238),
    ("minusd", 0x2238), ("mDDot", 0x223A), ("homtht", 0x223B), ("Tilde", 0x223C),
    ("thicksim", 0x223C), ("thksim", 0x223C), ("backsim", 0x223D), ("bsim", 0x223D),
    ("ac", 0x223E), ("mstpos", 0x223E), ("acd", 0x223F), ("VerticalTilde", 0x2240), ("wr", 0x2240),
    ("wreath", 0x2240), ("NotTilde", 0x2241), ("nsim", 0x2241), ("EqualTilde", 0x2242),
    ("eqsim", 0x2242), ("esim", 0x2242), ("TildeEqual", 0x2243), ("sime", 0x2243),
    ("simeq", 0x2243), ("NotTildeEqual", 0x2244), ("nsime", 0x2244), ("nsimeq", 0x2244),
    ("TildeFullEqual", 0x2245), ("simne", 0x2246), ("NotTildeFullEqual", 0x2247),
    ("ncong", 0x2247), ("TildeTilde", 0x2248), ("ap", 0x2248), ("approx", 0x2248),
    ("thickapprox", 0x2248), ("thkap", 0x2248), ("NotTildeTilde", 0x2249), ("nap", 0x2249),
    ("napprox", 0x2249), ("ape", 0x224A), ("approxeq", 0x224A), ("apid", 0x224B),
    ("backcong", 0x224C), ("bcong", 0x224C), ("CupCap", 0x224D), ("asympeq", 0x224D),
    ("Bumpeq", 0x224E), ("HumpDownHump", 0x224E), ("bump", 0x224E), ("HumpEqual", 0x224F),
    ("bumpe", 0x224F), ("bumpeq", 0x224F), ("DotEqual", 0x2250), ("doteq", 0x2250),
    ("esdot", 0x2250), ("doteqdot", 0x2251), ("eDot", 0x2251), ("efDot", 0x2252),
    ("fallingdotseq", 0x2252), ("erDot", 0x2253), ("risingdotseq", 0x2253), ("Assign", 0x2254),
    ("colone", 0x2254), ("coloneq", 0x2254), ("ecolon", 0x2255), ("eqcolon", 0x2255),
    ("ecir", 0x2256), ("eqcirc", 0x2256), ("circeq", 0x2257), ("cire", 0x2257), ("wedgeq", 0x2259),
    ("veeeq", 0x225A), ("triangleq", 0x225C), ("trie", 0x225C), ("equest", 0x225F),
    ("questeq", 0x225F), ("NotEqual", 0x2260), ("Congruent", 0x2261), ("NotCongruent", 0x2262),
    ("nequiv", 0x2262), ("leq", 0x2264), ("GreaterEqual", 0x2265), ("geq", 0x2265),
    ("LessFullEqual", 0x2266), ("lE", 0x2266), ("leqq", 0x2266), ("GreaterFullEqual", 0x2267),
    ("gE", 0x2267), ("geqq", 0x2267), ("lnE", 0x2268), ("lneqq", 0x2268), ("gnE", 0x2269),
    ("gneqq", 0x2269), ("Lt", 0x226A), ("NestedLessLess", 0x226A), ("ll", 0x226A), ("Gt", 0x226B),
    ("NestedGreaterGreater", 0x226B), ("gg", 0x226B), ("between", 0x226C), ("twixt", 0x226C),
    ("NotCupCap", 0x226D), ("NotLess", 0x226E), ("nless", 0x226E), ("nlt", 0x226E),
    ("NotGreater", 0x226F), ("ngt", 0x226F), ("ngtr", 0x226F), ("NotLessEqual", 0x2270),
    ("nle", 0x2270), ("nleq", 0x2270), ("NotGreaterEqual", 0x2271), ("nge", 0x2271),
    ("ngeq", 0x2271), ("LessTilde", 0x2272), ("lesssim", 0x2272), ("lsim", 0x2272),
    ("GreaterTilde", 0x2273), ("gsim", 0x2273), ("gtrsim", 0x2273), ("NotLessTilde", 0x2274),
    ("nlsim", 0x2274), ("NotGreaterTilde", 0x2275), ("ngsim", 0x2275), ("LessGreater", 0x2276),
    ("lessgtr", 0x2276), ("lg", 0x2276), ("GreaterLess", 0x2277), ("gl", 0x2277),
    ("gtrless", 0x2277), ("NotLessGreater", 0x2278), ("ntlg", 0x2278), ("NotGreaterLess", 0x2279),
    ("ntgl", 0x2279), ("Precedes", 0x227A), ("pr", 0x227A), ("prec", 0x227A), ("Succeeds", 0x227B),
    ("sc", 0x227B), ("succ", 0x227B), ("PrecedesSlantEqual", 0x227C), ("prcue", 0x227C),
    ("preccurlyeq", 0x227C), ("SucceedsSlantEqual", 0x227D), ("sccue", 0x227D),
    ("succcurlyeq", 0x227D), ("PrecedesTilde", 0x227E), ("precsim", 0x227E), ("prsim", 0x227E),
    ("SucceedsTilde", 0x227F), ("scsim", 0x227F), ("succsim", 0x227F), ("NotPrecedes", 0x2280),
    ("npr", 0x2280), ("nprec", 0x2280), ("NotSucceeds", 0x2281), ("nsc", 0x2281),
    ("nsucc", 0x2281), ("subset", 0x2282), ("Superset", 0x2283), ("supset", 0x2283),
    ("nsup", 0x2285), ("SubsetEqual", 0x2286), ("subseteq", 0x2286), ("SupersetEqual", 0x2287),
    ("supseteq", 0x2287), ("NotSubsetEqual", 0x2288), ("nsube", 0x2288), ("nsubseteq", 0x2288),
    ("NotSupersetEqual", 0x2289), ("nsupe", 0x2289), ("nsupseteq", 0x2289), ("subne", 0x228A),
    ("subsetneq", 0x228A), ("supne", 0x228B), ("supsetneq", 0x228B), ("cupdot", 0x228D),
    ("UnionPlus", 0x228E), ("uplus", 0x228E), ("SquareSubset", 0x228F), ("sqsub", 0x228F),
    ("sqsubset", 0x228F), ("SquareSuperset", 0x2290), ("sqsup", 0x2290), ("sqsupset", 0x2290),
    ("SquareSubsetEqual", 0x2291), ("sqsube", 0x2291), ("sqsubseteq", 0x2291),
    ("SquareSupersetEqual", 0x2292), ("sqsupe", 0x2292), ("sqsupseteq", 0x2292),
    ("SquareIntersection", 0x2293), ("sqcap", 0x2293), ("SquareUnion", 0x2294), ("sqcup", 0x2294),
    ("CirclePlus", 0x2295), ("CircleMinus", 0x2296), ("ominus", 0x2296), ("CircleTimes", 0x2297),
    ("osol", 0x2298), ("CircleDot", 0x2299), ("odot", 0x2299), ("circledcirc", 0x229A),
    ("ocir", 0x229A), ("circledast", 0x229B), ("oast", 0x229B), ("circleddash", 0x229D),
    ("odash", 0x229D), ("boxplus", 0x229E), ("plusb", 0x229E), ("boxminus", 0x229F),
    ("minusb", 0x229F), ("boxtimes", 0x22A0), ("timesb", 0x22A0), ("dotsquare", 0x22A1),
    ("sdotb", 0x22A1), ("RightTee", 0x22A2), ("vdash", 0x22A2), ("LeftTee", 0x22A3),
    ("dashv", 0x22A3), ("DownTee", 0x22A4), ("top", 0x22A4), ("UpTee", 0x22A5), ("bot", 0x22A5),
    ("bottom", 0x22A5), ("models", 0x22A7), ("DoubleRightTee", 0x22A8), ("vDash", 0x22A8),
    ("Vdash", 0x22A9), ("Vvdash", 0x22AA), ("VDash", 0x22AB), ("nvdash", 0x22AC),
    ("nvDash", 0x22AD), ("nVdash", 0x22AE), ("nVDash", 0x22AF), ("prurel", 0x22B0),
    ("LeftTriangle", 0x22B2), ("vartriangleleft", 0x22B2), ("vltri", 0x22B2),
    ("RightTriangle", 0x22B3), ("vartriangleright", 0x22B3), ("vrtri", 0x22B3),
    ("LeftTriangleEqual", 0x22B4), ("ltrie", 0x22B4), ("trianglelefteq", 0x22B4),
    ("RightTriangleEqual", 0x22B5), ("rtrie", 0x22B5), ("trianglerighteq", 0x22B5),
    ("origof", 0x22B6), ("imof", 0x22B7), ("multimap", 0x22B8), ("mumap", 0x22B8),
    ("hercon", 0x22B9), ("intcal", 0x22BA), ("intercal", 0x22BA), ("veebar", 0x22BB),
    ("barvee", 0x22BD), ("angrtvb", 0x22BE), ("lrtri", 0x22BF), ("Wedge", 0x22C0),
    ("bigwedge", 0x22C0), ("xwedge", 0x22C0), ("Vee", 0x22C1), ("bigvee", 0x22C1),
    ("xvee", 0x22C1), ("Intersection", 0x22C2), ("bigcap", 0x22C2), ("xcap", 0x22C2),
    ("Union", 0x22C3), ("bigcup", 0x22C3), ("xcup", 0x22C3), ("Diamond", 0x22C4), ("diam", 0x22C4),
    ("diamond", 0x22C4), ("Star", 0x22C6), ("sstarf", 0x22C6), ("divideontimes", 0x22C7),
    ("divonx", 0x22C7), ("bowtie", 0x22C8), ("ltimes", 0x22C9), ("rtimes", 0x22CA),
    ("leftthreetimes", 0x22CB), ("lthree", 0x22CB), ("rightthreetimes", 0x22CC),
    ("rthree", 0x22CC), ("backsimeq", 0x22CD), ("bsime", 0x22CD), ("curlyvee", 0x22CE),
    ("cuvee", 0x22CE), ("curlywedge", 0x22CF), ("cuwed", 0x22CF), ("Sub", 0x22D0),
    ("Subset", 0x22D0), ("Sup", 0x22D1), ("Supset", 0x22D1), ("Cap", 0x22D2), ("Cup", 0x22D3),
    ("fork", 0x22D4), ("pitchfork", 0x22D4), ("epar", 0x22D5), ("lessdot", 0x22D6),
    ("ltdot", 0x22D6), ("gtdot", 0x22D7), ("gtrdot", 0x22D7), ("Ll", 0x22D8), ("Gg", 0x22D9),
    ("ggg", 0x22D9), ("LessEqualGreater", 0x22DA), ("leg", 0x22DA), ("lesseqgtr", 0x22DA),
    ("GreaterEqualLess", 0x22DB), ("gel", 0x22DB), ("gtreqless", 0x22DB), ("cuepr", 0x22DE),
    ("curlyeqprec", 0x22DE), ("cuesc", 0x22DF), ("curlyeqsucc", 0x22DF),
    ("NotPrecedesSlantEqual", 0x22E0), ("nprcue", 0x22E0), ("NotSucceedsSlantEqual", 0x22E1),
    ("nsccue", 0x22E1), ("NotSquareSubsetEqual", 0x22E2), ("nsqsube", 0x22E2),
    ("NotSquareSupersetEqual", 0x22E3), ("nsqsupe", 0x22E3), ("lnsim", 0x22E6), ("gnsim", 0x22E7),
    ("precnsim", 0x22E8), ("prnsim", 0x22E8), ("scnsim", 0x22E9), ("succnsim", 0x22E9),
    ("NotLeftTriangle", 0x22EA), ("nltri", 0x22EA), ("ntriangleleft", 0x22EA),
    ("NotRightTriangle", 0x22EB), ("nrtri", 0x22EB), ("ntriangleright", 0x22EB),
    ("NotLeftTriangleEqual", 0x22EC), ("nltrie", 0x22EC), ("ntrianglelefteq", 0x22EC),
    ("NotRightTriangleEqual", 0x22ED), ("nrtrie", 0x22ED), ("ntrianglerighteq", 0x22ED),
    ("vellip", 0x22EE), ("ctdot", 0x22EF), ("utdot", 0x22F0), ("dtdot", 0x22F1), ("disin", 0x22F2),
    ("isinsv", 0x22F3), ("isins", 0x22F4), ("isindot", 0x22F5), ("notinvc", 0x22F6),
    ("notinvb", 0x22F7), ("isinE", 0x22F9), ("nisd", 0x22FA), ("xnis", 0x22FB), ("nis", 0x22FC),
    ("notnivc", 0x22FD), ("notnivb", 0x22FE)]

/-- Technical signs, lines, shapes and dingbats. -/
def shapeNames : List (String × Nat) :=
  [("barwed", 0x2305), ("barwedge", 0x2305), ("Barwed", 0x2306), ("doublebarwedge", 0x2306),
    ("LeftCeiling", 0x2308), ("RightCeiling", 0x2309), ("LeftFloor", 0x230A),
    ("RightFloor", 0x230B), ("drcrop", 0x230C), ("dlcrop", 0x230D), ("urcrop", 0x230E),
    ("ulcrop", 0x230F), ("bnot", 0x2310), ("profline", 0x2312), ("profsurf", 0x2313),
    ("telrec", 0x2315), ("target", 0x2316), ("ulcorn", 0x231C), ("ulcorner", 0x231C),
    ("urcorn", 0x231D), ("urcorner", 0x231D), ("dlcorn", 0x231E), ("llcorner", 0x231E),
    ("drcorn", 0x231F), ("lrcorner", 0x231F), ("frown", 0x2322), ("sfrown", 0x2322),
    ("smile", 0x2323), ("ssmile", 0x2323), ("cylcty", 0x232D), ("profalar", 0x232E),
    ("topbot", 0x2336), ("ovbar", 0x233D), ("solbar", 0x233F), ("angzarr", 0x237C),
    ("lmoust", 0x23B0), ("lmoustache", 0x23B0), ("rmoust", 0x23B1), ("rmoustache", 0x23B1),
    ("OverBracket", 0x23B4), ("tbrk", 0x23B4), ("UnderBracket", 0x23B5), ("bbrk", 0x23B5),
    ("bbrktbrk", 0x23B6), ("OverParenthesis", 0x23DC), ("UnderParenthesis", 0x23DD),
    ("OverBrace", 0x23DE), ("UnderBrace", 0x23DF), ("trpezium", 0x23E2), ("elinters", 0x23E7),
    ("blank", 0x2423), ("circledS", 0x24C8), ("oS", 0x24C8), ("HorizontalLine", 0x2500),
    ("boxh", 0x2500), ("boxv", 0x2502), ("boxdr", 0x250C), ("boxdl", 0x2510), ("boxur", 0x2514),
    ("boxul", 0x2518), ("boxvr", 0x251C), ("boxvl", 0x2524), ("boxhd", 0x252C), ("boxhu", 0x2534),
    ("boxvh", 0x253C), ("boxH", 0x2550), ("boxV", 0x2551), ("boxdR", 0x2552), ("boxDr", 0x2553),
    ("boxDR", 0x2554), ("boxdL", 0x2555), ("boxDl", 0x2556), ("boxDL", 0x2557), ("boxuR", 0x2558),
    ("boxUr", 0x2559), ("boxUR", 0x255A), ("boxuL", 0x255B), ("boxUl", 0x255C), ("boxUL", 0x255D),
    ("boxvR", 0x255E), ("boxVr", 0x255F), ("boxVR", 0x2560), ("boxvL", 0x2561), ("boxVl", 0x2562),
    ("boxVL", 0x2563), ("boxHd", 0x2564), ("boxhD", 0x2565), ("boxHD", 0x2566), ("boxHu", 0x2567),
    ("boxhU", 0x2568), ("boxHU", 0x2569), ("boxvH", 0x256A), ("boxVh", 0x256B), ("boxVH", 0x256C),
    ("uhblk", 0x2580), ("lhblk", 0x2584), ("block", 0x2588), ("blk14", 0x2591), ("blk12", 0x2592),
    ("blk34", 0x2593), ("Square", 0x25A1), ("squ", 0x25A1), ("square", 0x25A1),
    ("FilledVerySmallSquare", 0x25AA), ("blacksquare", 0x25AA), ("squarf", 0x25AA),
    ("squf", 0x25AA), ("EmptyVerySmallSquare", 0x25AB), ("rect", 0x25AD), ("marker", 0x25AE),
    ("fltns", 0x25B1), ("bigtriangleup", 0x25B3), ("xutri", 0x25B3), ("blacktriangle", 0x25B4),
    ("utrif", 0x25B4), ("triangle", 0x25B5), ("utri", 0x25B5), ("blacktriangleright", 0x25B8),
    ("rtrif", 0x25B8), ("rtri", 0x25B9), ("triangleright", 0x25B9), ("bigtriangledown", 0x25BD),
    ("xdtri", 0x25BD), ("blacktriangledown", 0x25BE), ("dtrif", 0x25BE), ("dtri", 0x25BF),
    ("triangledown", 0x25BF), ("blacktriangleleft", 0x25C2), ("ltrif", 0x25C2), ("ltri", 0x25C3),
    ("triangleleft", 0x25C3), ("lozenge", 0x25CA), ("cir", 0x25CB), ("tridot", 0x25EC),
    ("bigcirc", 0x25EF), ("xcirc", 0x25EF), ("ultri", 0x25F8), ("urtri", 0x25F9),
    ("lltri", 0x25FA), ("EmptySmallSquare", 0x25FB), ("FilledSmallSquare", 0x25FC),
    ("bigstar", 0x2605), ("starf", 0x2605), ("star", 0x2606), ("phone", 0x260E),
    ("female", 0x2640), ("male", 0x2642), ("spadesuit", 0x2660), ("clubsuit", 0x2663),
    ("heartsuit", 0x2665), ("diamondsuit", 0x2666), ("sung", 0x266A), ("flat", 0x266D),
    ("natur", 0x266E), ("natural", 0x266E), ("sharp", 0x266F), ("check", 0x2713),
    ("checkmark", 0x2713), ("cross", 0x2717), ("malt", 0x2720), ("maltese", 0x2720),
    ("sext", 0x2736), ("VerticalSeparator", 0x2758), ("lbbrk", 0x2772), ("rbbrk", 0x2773),
    ("bsolhsub", 0x27C8), ("suphsol", 0x27C9), ("LeftDoubleBracket", 0x27E6), ("lobrk", 0x27E6),
    ("RightDoubleBracket", 0x27E7), ("robrk", 0x27E7), ("LeftAngleBracket", 0x27E8),
    ("langle", 0x27E8), ("RightAngleBracket", 0x27E9), ("rangle", 0x27E9), ("Lang", 0x27EA),
    ("Rang", 0x27EB), ("loang", 0x27EC), ("roang", 0x27ED), ("LongLeftArrow", 0x27F5),
    ("longleftarrow", 0x27F5), ("xlarr", 0x27F5), ("LongRightArrow", 0x27F6),
    ("longrightarrow", 0x27F6), ("xrarr", 0x27F6), ("LongLeftRightArrow", 0x27F7),
    ("longleftrightarrow", 0x27F7), ("xharr", 0x27F7), ("DoubleLongLeftArrow", 0x27F8),
    ("Longleftarrow", 0x27F8), ("xlArr", 0x27F8), ("DoubleLongRightArrow", 0x27F9),
    ("Longrightarrow", 0x27F9), ("xrArr", 0x27F9), ("DoubleLongLeftRightArrow", 0x27FA),
    ("Longleftrightarrow", 0x27FA), ("xhArr", 0x27FA), ("longmapsto", 0x27FC), ("xmap", 0x27FC),
    ("dzigrarr", 0x27FF)]

/-- Further arrows. -/
def longArrowNames : List (String × Nat) :=
  [("nvlArr", 0x2902), ("nvrArr", 0x2903), ("nvHarr", 0x2904), ("Map", 0x2905), ("lbarr", 0x290C),
    ("bkarow", 0x290D), ("rbarr", 0x290D), ("lBarr", 0x290E), ("dbkarow", 0x290F),
    ("rBarr", 0x290F), ("RBarr", 0x2910), ("drbkarow", 0x2910), ("DDotrahd", 0x2911),
    ("UpArrowBar", 0x2912), ("DownArrowBar", 0x2913), ("Rarrtl", 0x2916), ("latail", 0x2919),
    ("ratail", 0x291A), ("lAtail", 0x291B), ("rAtail", 0x291C), ("larrfs", 0x291D),
    ("rarrfs", 0x291E), ("larrbfs", 0x291F), ("rarrbfs", 0x2920), ("nwarhk", 0x2923),
    ("nearhk", 0x2924), ("hksearow", 0x2925), ("searhk", 0x2925), ("hkswarow", 0x2926),
    ("swarhk", 0x2926), ("nwnear", 0x2927), ("nesear", 0x2928), ("toea", 0x2928),
    ("seswar", 0x2929), ("tosa", 0x2929), ("swnwar", 0x292A), ("rarrc", 0x2933),
    ("cudarrr", 0x2935), ("ldca", 0x2936), ("rdca", 0x2937), ("cudarrl", 0x2938),
    ("larrpl", 0x2939), ("curarrm", 0x293C), ("cularrp", 0x293D), ("rarrpl", 0x2945),
    ("harrcir", 0x2948), ("Uarrocir", 0x2949), ("lurdshar", 0x294A), ("ldrushar", 0x294B),
    ("LeftRightVector", 0x294E), ("RightUpDownVector", 0x294F), ("DownLeftRightVector", 0x2950),
    ("LeftUpDownVector", 0x2951), ("LeftVectorBar", 0x2952), ("RightVectorBar", 0x2953),
    ("RightUpVectorBar", 0x2954), ("RightDownVectorBar", 0x2955), ("DownLeftVectorBar", 0x2956),
    ("DownRightVectorBar", 0x2957), ("LeftUpVectorBar", 0x2958), ("LeftDownVectorBar", 0x2959),
    ("LeftTeeVector", 0x295A), ("RightTeeVector", 0x295B), ("RightUpTeeVector", 0x295C),
    ("RightDownTeeVector", 0x295D), ("DownLeftTeeVector", 0x295E), ("DownRightTeeVector", 0x295F),
    ("LeftUpTeeVector", 0x2960), ("LeftDownTeeVector", 0x2961), ("lHar", 0x2962), ("uHar", 0x2963),
    ("rHar", 0x2964), ("dHar", 0x2965), ("luruhar", 0x2966), ("ldrdhar", 0x2967),
    ("ruluhar", 0x2968), ("rdldhar", 0x2969), ("lharul", 0x296A), ("llhard", 0x296B),
    ("rharul", 0x296C), ("lrhard", 0x296D), ("UpEquilibrium", 0x296E), ("udhar", 0x296E),
    ("ReverseUpEquilibrium", 0x296F), ("duhar", 0x296F), ("RoundImplies", 0x2970),
    ("erarr", 0x2971), ("simrarr", 0x2972), ("larrsim", 0x2973), ("rarrsim", 0x2974),
    ("rarrap", 0x2975), ("ltlarr", 0x2976), ("gtrarr", 0x2978), ("subrarr", 0x2979),
    ("suplarr", 0x297B), ("lfisht", 0x297C), ("rfisht", 0x297D), ("ufisht", 0x297E),
    ("dfisht", 0x297F)]

/-- Further mathematical signs. -/
def markNames : List (String × Nat) :=
  [("lopar", 0x2985), ("ropar", 0x2986), ("lbrke", 0x298B), ("rbrke", 0x298C),
    ("lbrkslu", 0x298D), ("rbrksld", 0x298E), ("lbrksld", 0x298F), ("rbrkslu", 0x2990),
    ("langd", 0x2991), ("rangd", 0x2992), ("lparlt", 0x2993), ("rpargt", 0x2994),
    ("gtlPar", 0x2995), ("ltrPar", 0x2996), ("vzigzag", 0x299A), ("vangrt", 0x299C),
    ("angrtvbd", 0x299D), ("ange", 0x29A4), ("range", 0x29A5), ("dwangle", 0x29A6),
    ("uwangle", 0x29A7), ("angmsdaa", 0x29A8), ("angmsdab", 0x29A9), ("angmsdac", 0x29AA),
    ("angmsdad", 0x29AB), ("angmsdae", 0x29AC), ("angmsdaf", 0x29AD), ("angmsdag", 0x29AE),
    ("angmsdah", 0x29AF), ("bemptyv", 0x29B0), ("demptyv", 0x29B1), ("cemptyv", 0x29B2),
    ("raemptyv", 0x29B3), ("laemptyv", 0x29B4), ("ohbar", 0x29B5), ("omid", 0x29B6),
    ("opar", 0x29B7), ("operp", 0x29B9), ("olcross", 0x29BB), ("odsold", 0x29BC),
    ("olcir", 0x29BE), ("ofcir", 0x29BF), ("olt", 0x29C0), ("ogt", 0x29C1), ("cirscir", 0x29C2),
    ("cirE", 0x29C3), ("solb", 0x29C4), ("bsolb", 0x29C5), ("boxbox", 0x29C9), ("trisb", 0x29CD),
    ("rtriltri", 0x29CE), ("LeftTriangleBar", 0x29CF), ("RightTriangleBar", 0x29D0),
    ("iinfin", 0x29DC), ("infintie", 0x29DD), ("nvinfin", 0x29DE), ("eparsl", 0x29E3),
    ("smeparsl", 0x29E4), ("eqvparsl", 0x29E5), ("blacklozenge", 0x29EB), ("lozf", 0x29EB),
    ("RuleDelayed", 0x29F4), ("dsol", 0x29F6)]

/-- Further mathematical operators. -/
def relationNames : List (String × Nat) :=
  [("bigodot", 0x2A00), ("xodot", 0x2A00), ("bigoplus", 0x2A01), ("xoplus", 0x2A01),
    ("bigotimes", 0x2A02), ("xotime", 0x2A02), ("biguplus", 0x2A04), ("xuplus", 0x2A04),
    ("bigsqcup", 0x2A06), ("xsqcup", 0x2A06), ("iiiint", 0x2A0C), ("qint", 0x2A0C),
    ("fpartint", 0x2A0D), ("cirfnint", 0x2A10), ("awint", 0x2A11), ("rppolint", 0x2A12),
    ("scpolint", 0x2A13), ("npolint", 0x2A14), ("pointint", 0x2A15), ("quatint", 0x2A16),
    ("intlarhk", 0x2A17), ("pluscir", 0x2A22), ("plusacir", 0x2A23), ("simplus", 0x2A24),
    ("plusdu", 0x2A25), ("plussim", 0x2A26), ("plustwo", 0x2A27), ("mcomma", 0x2A29),
    ("minusdu", 0x2A2A), ("loplus", 0x2A2D), ("roplus", 0x2A2E), ("Cross", 0x2A2F),
    ("timesd", 0x2A30), ("timesbar", 0x2A31), ("smashp", 0x2A33), ("lotimes", 0x2A34),
    ("rotimes", 0x2A35), ("otimesas", 0x2A36), ("Otimes", 0x2A37), ("odiv", 0x2A38),
    ("triplus", 0x2A39), ("triminus", 0x2A3A), ("tritime", 0x2A3B), ("intprod", 0x2A3C),
    ("iprod", 0x2A3C), ("amalg", 0x2A3F), ("capdot", 0x2A40), ("ncup", 0x2A42), ("ncap", 0x2A43),
    ("capand", 0x2A44), ("cupor", 0x2A45), ("cupcap", 0x2A46), ("capcup", 0x2A47),
    ("cupbrcap", 0x2A48), ("capbrcup", 0x2A49), ("cupcup", 0x2A4A), ("capcap", 0x2A4B),
    ("ccups", 0x2A4C), ("ccaps", 0x2A4D), ("ccupssm", 0x2A50), ("And", 0x2A53), ("Or", 0x2A54),
    ("andand", 0x2A55), ("oror", 0x2A56), ("orslope", 0x2A57), ("andslope", 0x2A58),
    ("andv", 0x2A5A), ("orv", 0x2A5B), ("andd", 0x2A5C), ("ord", 0x2A5D), ("wedbar", 0x2A5F),
    ("sdote", 0x2A66), ("simdot", 0x2A6A), ("congdot", 0x2A6D), ("easter", 0x2A6E),
    ("apacir", 0x2A6F), ("apE", 0x2A70), ("eplus", 0x2A71), ("pluse", 0x2A72), ("Esim", 0x2A73),
    ("Colone", 0x2A74), ("Equal", 0x2A75), ("ddotseq", 0x2A77), ("eDDot", 0x2A77),
    ("equivDD", 0x2A78), ("ltcir", 0x2A79), ("gtcir", 0x2A7A), ("ltquest", 0x2A7B),
    ("gtquest", 0x2A7C), ("LessSlantEqual", 0x2A7D), ("leqslant", 0x2A7D), ("les", 0x2A7D),
    ("GreaterSlantEqual", 0x2A7E), ("geqslant", 0x2A7E), ("ges", 0x2A7E), ("lesdot", 0x2A7F),
    ("gesdot", 0x2A80), ("lesdoto", 0x2A81), ("gesdoto", 0x2A82), ("lesdotor", 0x2A83),
    ("gesdotol", 0x2A84), ("lap", 0x2A85), ("lessapprox", 0x2A85), ("gap", 0x2A86),
    ("gtrapprox", 0x2A86), ("lne", 0x2A87), ("lneq", 0x2A87), ("gne", 0x2A88), ("gneq", 0x2A88),
    ("lnap", 0x2A89), ("lnapprox", 0x2A89), ("gnap", 0x2A8A), ("gnapprox", 0x2A8A),
    ("lEg", 0x2A8B), ("lesseqqgtr", 0x2A8B), ("gEl", 0x2A8C), ("gtreqqless", 0x2A8C),
    ("lsime", 0x2A8D), ("gsime", 0x2A8E), ("lsimg", 0x2A8F), ("gsiml", 0x2A90), ("lgE", 0x2A91),
    ("glE", 0x2A92), ("lesges", 0x2A93), ("gesles", 0x2A94), ("els", 0x2A95),
    ("eqslantless", 0x2A95), ("egs", 0x2A96), ("eqslantgtr", 0x2A96), ("elsdot", 0x2A97),
    ("egsdot", 0x2A98), ("el", 0x2A99), ("eg", 0x2A9A), ("siml", 0x2A9D), ("simg", 0x2A9E),
    ("simlE", 0x2A9F), ("simgE", 0x2AA0), ("LessLess", 0x2AA1), ("GreaterGreater", 0x2AA2),
    ("glj", 0x2AA4), ("gla", 0x2AA5), ("ltcc", 0x2AA6), ("gtcc", 0x2AA7), ("lescc", 0x2AA8),
    ("gescc", 0x2AA9), ("smt", 0x2AAA), ("lat", 0x2AAB), ("smte", 0x2AAC), ("late", 0x2AAD),
    ("bumpE", 0x2AAE), ("PrecedesEqual", 0x2AAF), ("pre", 0x2AAF), ("preceq", 0x2AAF),
    ("SucceedsEqual", 0x2AB0), ("sce", 0x2AB0), ("succeq", 0x2AB0), ("prE", 0x2AB3),
    ("scE", 0x2AB4), ("precneqq", 0x2AB5), ("prnE", 0x2AB5), ("scnE", 0x2AB6),
    ("succneqq", 0x2AB6), ("prap", 0x2AB7), ("precapprox", 0x2AB7), ("scap", 0x2AB8),
    ("succapprox", 0x2AB8), ("precnapprox", 0x2AB9), ("prnap", 0x2AB9), ("scnap", 0x2ABA),
    ("succnapprox", 0x2ABA), ("Pr", 0x2ABB), ("Sc", 0x2ABC), ("subdot", 0x2ABD),
    ("supdot", 0x2ABE), ("subplus", 0x2ABF), ("supplus", 0x2AC0), ("submult", 0x2AC1),
    ("supmult", 0x2AC2), ("subedot", 0x2AC3), ("supedot", 0x2AC4), ("subE", 0x2AC5),
    ("subseteqq", 0x2AC5), ("supE", 0x2AC6), ("supseteqq", 0x2AC6), ("subsim", 0x2AC7),
    ("supsim", 0x2AC8), ("subnE", 0x2ACB), ("subsetneqq", 0x2ACB), ("supnE", 0x2ACC),
    ("supsetneqq", 0x2ACC), ("csub", 0x2ACF), ("csup", 0x2AD0), ("csube", 0x2AD1),
    ("csupe", 0x2AD2), ("subsup", 0x2AD3), ("supsub", 0x2AD4), ("subsub", 0x2AD5),
    ("supsup", 0x2AD6), ("suphsub", 0x2AD7), ("supdsub", 0x2AD8), ("forkv", 0x2AD9),
    ("topfork", 0x2ADA), ("mlcp", 0x2ADB), ("Dashv", 0x2AE4), ("DoubleLeftTee", 0x2AE4),
    ("Vdashl", 0x2AE6), ("Barv", 0x2AE7), ("vBar", 0x2AE8), ("vBarv", 0x2AE9), ("Vbar", 0x2AEB),
    ("Not", 0x2AEC), ("bNot", 0x2AED), ("rnmid", 0x2AEE), ("cirmid", 0x2AEF), ("midcir", 0x2AF0),
    ("topcir", 0x2AF1), ("nhpar", 0x2AF2), ("parsim", 0x2AF3), ("parsl", 0x2AFD)]

/-- Ligatures and letters in mathematical styles. -/
def styledNames : List (String × Nat) :=
  [("fflig", 0xFB00), ("filig", 0xFB01), ("fllig", 0xFB02), ("ffilig", 0xFB03),
    ("ffllig", 0xFB04), ("Ascr", 0x1D49C), ("Cscr", 0x1D49E), ("Dscr", 0x1D49F), ("Gscr", 0x1D4A2),
    ("Jscr", 0x1D4A5), ("Kscr", 0x1D4A6), ("Nscr", 0x1D4A9), ("Oscr", 0x1D4AA), ("Pscr", 0x1D4AB),
    ("Qscr", 0x1D4AC), ("Sscr", 0x1D4AE), ("Tscr", 0x1D4AF), ("Uscr", 0x1D4B0), ("Vscr", 0x1D4B1),
    ("Wscr", 0x1D4B2), ("Xscr", 0x1D4B3), ("Yscr", 0x1D4B4), ("Zscr", 0x1D4B5), ("ascr", 0x1D4B6),
    ("bscr", 0x1D4B7), ("cscr", 0x1D4B8), ("dscr", 0x1D4B9), ("fscr", 0x1D4BB), ("hscr", 0x1D4BD),
    ("iscr", 0x1D4BE), ("jscr", 0x1D4BF), ("kscr", 0x1D4C0), ("lscr", 0x1D4C1), ("mscr", 0x1D4C2),
    ("nscr", 0x1D4C3), ("pscr", 0x1D4C5), ("qscr", 0x1D4C6), ("rscr", 0x1D4C7), ("sscr", 0x1D4C8),
    ("tscr", 0x1D4C9), ("uscr", 0x1D4CA), ("vscr", 0x1D4CB), ("wscr", 0x1D4CC), ("xscr", 0x1D4CD),
    ("yscr", 0x1D4CE), ("zscr", 0x1D4CF), ("Afr", 0x1D504), ("Bfr", 0x1D505), ("Dfr", 0x1D507),
    ("Efr", 0x1D508), ("Ffr", 0x1D509), ("Gfr", 0x1D50A), ("Jfr", 0x1D50D), ("Kfr", 0x1D50E),
    ("Lfr", 0x1D50F), ("Mfr", 0x1D510), ("Nfr", 0x1D511), ("Ofr", 0x1D512), ("Pfr", 0x1D513),
    ("Qfr", 0x1D514), ("Sfr", 0x1D516), ("Tfr", 0x1D517), ("Ufr", 0x1D518), ("Vfr", 0x1D519),
    ("Wfr", 0x1D51A), ("Xfr", 0x1D51B), ("Yfr", 0x1D51C), ("afr", 0x1D51E), ("bfr", 0x1D51F),
    ("cfr", 0x1D520), ("dfr", 0x1D521), ("efr", 0x1D522), ("ffr", 0x1D523), ("gfr", 0x1D524),
    ("hfr", 0x1D525), ("ifr", 0x1D526), ("jfr", 0x1D527), ("kfr", 0x1D528), ("lfr", 0x1D529),
    ("mfr", 0x1D52A), ("nfr", 0x1D52B), ("ofr", 0x1D52C), ("pfr", 0x1D52D), ("qfr", 0x1D52E),
    ("rfr", 0x1D52F), ("sfr", 0x1D530), ("tfr", 0x1D531), ("ufr", 0x1D532), ("vfr", 0x1D533),
    ("wfr", 0x1D534), ("xfr", 0x1D535), ("yfr", 0x1D536), ("zfr", 0x1D537), ("Aopf", 0x1D538),
    ("Bopf", 0x1D539), ("Dopf", 0x1D53B), ("Eopf", 0x1D53C), ("Fopf", 0x1D53D), ("Gopf", 0x1D53E),
    ("Iopf", 0x1D540), ("Jopf", 0x1D541), ("Kopf", 0x1D542), ("Lopf", 0x1D543), ("Mopf", 0x1D544),
    ("Oopf", 0x1D546), ("Sopf", 0x1D54A), ("Topf", 0x1D54B), ("Uopf", 0x1D54C), ("Vopf", 0x1D54D),
    ("Wopf", 0x1D54E), ("Xopf", 0x1D54F), ("Yopf", 0x1D550), ("aopf", 0x1D552), ("bopf", 0x1D553),
    ("copf", 0x1D554), ("dopf", 0x1D555), ("eopf", 0x1D556), ("fopf", 0x1D557), ("gopf", 0x1D558),
    ("hopf", 0x1D559), ("iopf", 0x1D55A), ("jopf", 0x1D55B), ("kopf", 0x1D55C), ("lopf", 0x1D55D),
    ("mopf", 0x1D55E), ("nopf", 0x1D55F), ("oopf", 0x1D560), ("popf", 0x1D561), ("qopf", 0x1D562),
    ("ropf", 0x1D563), ("sopf", 0x1D564), ("topf", 0x1D565), ("uopf", 0x1D566), ("vopf", 0x1D567),
    ("wopf", 0x1D568), ("xopf", 0x1D569), ("yopf", 0x1D56A), ("zopf", 0x1D56B)]

/-- A character and a mark or letter that follows it. -/
def pairNames : List (String × Nat × Nat) :=
  [("nvlt", 0x3C, 0x20D2), ("bne", 0x3D, 0x20E5), ("nvgt", 0x3E, 0x20D2), ("fjlig", 0x66, 0x6A),
    ("ThickSpace", 0x205F, 0x200A), ("nrarrw", 0x219D, 0x338), ("npart", 0x2202, 0x338),
    ("nang", 0x2220, 0x20D2), ("caps", 0x2229, 0xFE00), ("cups", 0x222A, 0xFE00),
    ("nvsim", 0x223C, 0x20D2), ("race", 0x223D, 0x331), ("acE", 0x223E, 0x333),
    ("NotEqualTilde", 0x2242, 0x338), ("nesim", 0x2242, 0x338), ("napid", 0x224B, 0x338),
    ("nvap", 0x224D, 0x20D2), ("NotHumpDownHump", 0x224E, 0x338), ("nbump", 0x224E, 0x338),
    ("NotHumpEqual", 0x224F, 0x338), ("nbumpe", 0x224F, 0x338), ("nedot", 0x2250, 0x338),
    ("bnequiv", 0x2261, 0x20E5), ("nvle", 0x2264, 0x20D2), ("nvge", 0x2265, 0x20D2),
    ("nlE", 0x2266, 0x338), ("nleqq", 0x2266, 0x338), ("NotGreaterFullEqual", 0x2267, 0x338),
    ("ngE", 0x2267, 0x338), ("ngeqq", 0x2267, 0x338), ("lvertneqq", 0x2268, 0xFE00),
    ("lvnE", 0x2268, 0xFE00), ("gvertneqq", 0x2269, 0xFE00), ("gvnE", 0x2269, 0xFE00),
    ("NotLessLess", 0x226A, 0x338), ("nLtv", 0x226A, 0x338), ("nLt", 0x226A, 0x20D2),
    ("NotGreaterGreater", 0x226B, 0x338), ("nGtv", 0x226B, 0x338), ("nGt", 0x226B, 0x20D2),
    ("NotSucceedsTilde", 0x227F, 0x338), ("NotSubset", 0x2282, 0x20D2),
    ("nsubset", 0x2282, 0x20D2), ("vnsub", 0x2282, 0x20D2), ("NotSuperset", 0x2283, 0x20D2),
    ("nsupset", 0x2283, 0x20D2), ("vnsup", 0x2283, 0x20D2), ("varsubsetneq", 0x228A, 0xFE00),
    ("vsubne", 0x228A, 0xFE00), ("varsupsetneq", 0x228B, 0xFE00), ("vsupne", 0x228B, 0xFE00),
    ("NotSquareSubset", 0x228F, 0x338), ("NotSquareSuperset", 0x2290, 0x338),
    ("sqcaps", 0x2293, 0xFE00), ("sqcups", 0x2294, 0xFE00), ("nvltrie", 0x22B4, 0x20D2),
    ("nvrtrie", 0x22B5, 0x20D2), ("nLl", 0x22D8, 0x338), ("nGg", 0x22D9, 0x338),
    ("lesg", 0x22DA, 0xFE00), ("gesl", 0x22DB, 0xFE00), ("notindot", 0x22F5, 0x338),
    ("notinE", 0x22F9, 0x338), ("nrarrc", 0x2933, 0x338), ("NotLeftTriangleBar", 0x29CF, 0x338),
    ("NotRightTriangleBar", 0x29D0, 0x338), ("ncongdot", 0x2A6D, 0x338), ("napE", 0x2A70, 0x338),
    ("NotLessSlantEqual", 0x2A7D, 0x338), ("nleqslant", 0x2A7D, 0x338), ("nles", 0x2A7D, 0x338),
    ("NotGreaterSlantEqual", 0x2A7E, 0x338), ("ngeqslant", 0x2A7E, 0x338), ("nges", 0x2A7E, 0x338),
    ("NotNestedLessLess", 0x2AA1, 0x338), ("NotNestedGreaterGreater", 0x2AA2, 0x338),
    ("smtes", 0x2AAC, 0xFE00), ("lates", 0x2AAD, 0xFE00), ("NotPrecedesEqual", 0x2AAF, 0x338),
    ("npre", 0x2AAF, 0x338), ("npreceq", 0x2AAF, 0x338), ("NotSucceedsEqual", 0x2AB0, 0x338),
    ("nsce", 0x2AB0, 0x338), ("nsucceq", 0x2AB0, 0x338), ("nsubE", 0x2AC5, 0x338),
    ("nsubseteqq", 0x2AC5, 0x338), ("nsupE", 0x2AC6, 0x338), ("nsupseteqq", 0x2AC6, 0x338),
    ("varsubsetneqq", 0x2ACB, 0xFE00), ("vsubnE", 0x2ACB, 0xFE00),
    ("varsupsetneqq", 0x2ACC, 0xFE00), ("vsupnE", 0x2ACC, 0xFE00), ("nparsl", 0x2AFD, 0x20E5)]

/-- All further names of one character. -/
def furtherNames : List (List (String × Nat)) :=
  [latinNames, greekNames, signNames, arrowNames, operatorNames, shapeNames, longArrowNames,
    markNames, relationNames, styledNames]

end NoteLinks.Html
