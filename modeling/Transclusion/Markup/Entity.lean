/-!
# Named character references

The named character references of HTML, with the one or two characters each
stands for. A name is written with its closing semicolon; the legacy names that
may also appear without it are listed a second time without one. The table
has no entries for `nGt;` and `nLt;` (much greater and much less than with a
vertical line), so those two stay as written.

The table is stored as one packed text: each entry is a name, a unit separator
and its characters, followed by a record separator.
-/

namespace Transclusion.Markup

def entityTable : String :=
  "AElig\x1f\xC6\x1eAElig;\x1f\xC6\x1eAMP\x1f&\x1eAMP;\x1f&\x1eAacute\x1f\xC1\x1e" ++
  "Aacute;\x1f\xC1\x1eAbreve;\x1f\u0102\x1eAcirc\x1f\xC2\x1eAcirc;\x1f\xC2\x1e" ++
  "Acy;\x1f\u0410\x1eAfr;\x1f𝔄\x1eAgrave\x1f\xC0\x1eAgrave;\x1f\xC0\x1eAlpha;\x1f\u0391\x1e" ++
  "Amacr;\x1f\u0100\x1eAnd;\x1f\u2A53\x1eAogon;\x1f\u0104\x1eAopf;\x1f𝔸\x1e" ++
  "ApplyFunction;\x1f\u2061\x1eAring\x1f\xC5\x1eAring;\x1f\xC5\x1eAscr;\x1f𝒜\x1e" ++
  "Assign;\x1f\u2254\x1eAtilde\x1f\xC3\x1eAtilde;\x1f\xC3\x1eAuml\x1f\xC4\x1e" ++
  "Auml;\x1f\xC4\x1eBackslash;\x1f\u2216\x1eBarv;\x1f\u2AE7\x1eBarwed;\x1f\u2306\x1e" ++
  "Bcy;\x1f\u0411\x1eBecause;\x1f\u2235\x1eBernoullis;\x1f\u212C\x1eBeta;\x1f\u0392\x1e" ++
  "Bfr;\x1f𝔅\x1eBopf;\x1f𝔹\x1eBreve;\x1f\u02D8\x1eBscr;\x1f\u212C\x1eBumpeq;\x1f\u224E\x1e" ++
  "CHcy;\x1f\u0427\x1eCOPY\x1f\xA9\x1eCOPY;\x1f\xA9\x1eCacute;\x1f\u0106\x1e" ++
  "Cap;\x1f\u22D2\x1eCapitalDifferentialD;\x1f\u2145\x1eCayleys;\x1f\u212D\x1e" ++
  "Ccaron;\x1f\u010C\x1eCcedil\x1f\xC7\x1eCcedil;\x1f\xC7\x1eCcirc;\x1f\u0108\x1e" ++
  "Cconint;\x1f\u2230\x1eCdot;\x1f\u010A\x1eCedilla;\x1f\xB8\x1eCenterDot;\x1f\xB7\x1e" ++
  "Cfr;\x1f\u212D\x1eChi;\x1f\u03A7\x1eCircleDot;\x1f\u2299\x1eCircleMinus;\x1f\u2296\x1e" ++
  "CirclePlus;\x1f\u2295\x1eCircleTimes;\x1f\u2297\x1eClockwiseContourIntegral;\x1f\u2232\x1e" ++
  "CloseCurlyDoubleQuote;\x1f\u201D\x1eCloseCurlyQuote;\x1f\u2019\x1eColon;\x1f\u2237\x1e" ++
  "Colone;\x1f\u2A74\x1eCongruent;\x1f\u2261\x1eConint;\x1f\u222F\x1e" ++
  "ContourIntegral;\x1f\u222E\x1eCopf;\x1f\u2102\x1eCoproduct;\x1f\u2210\x1e" ++
  "CounterClockwiseContourIntegral;\x1f\u2233\x1eCross;\x1f\u2A2F\x1eCscr;\x1f𝒞\x1e" ++
  "Cup;\x1f\u22D3\x1eCupCap;\x1f\u224D\x1eDD;\x1f\u2145\x1eDDotrahd;\x1f\u2911\x1e" ++
  "DJcy;\x1f\u0402\x1eDScy;\x1f\u0405\x1eDZcy;\x1f\u040F\x1eDagger;\x1f\u2021\x1e" ++
  "Darr;\x1f\u21A1\x1eDashv;\x1f\u2AE4\x1eDcaron;\x1f\u010E\x1eDcy;\x1f\u0414\x1e" ++
  "Del;\x1f\u2207\x1eDelta;\x1f\u0394\x1eDfr;\x1f𝔇\x1eDiacriticalAcute;\x1f\xB4\x1e" ++
  "DiacriticalDot;\x1f\u02D9\x1eDiacriticalDoubleAcute;\x1f\u02DD\x1e" ++
  "DiacriticalGrave;\x1f`\x1eDiacriticalTilde;\x1f\u02DC\x1eDiamond;\x1f\u22C4\x1e" ++
  "DifferentialD;\x1f\u2146\x1eDopf;\x1f𝔻\x1eDot;\x1f\xA8\x1eDotDot;\x1f\u20DC\x1e" ++
  "DotEqual;\x1f\u2250\x1eDoubleContourIntegral;\x1f\u222F\x1eDoubleDot;\x1f\xA8\x1e" ++
  "DoubleDownArrow;\x1f\u21D3\x1eDoubleLeftArrow;\x1f\u21D0\x1e" ++
  "DoubleLeftRightArrow;\x1f\u21D4\x1eDoubleLeftTee;\x1f\u2AE4\x1e" ++
  "DoubleLongLeftArrow;\x1f\u27F8\x1eDoubleLongLeftRightArrow;\x1f\u27FA\x1e" ++
  "DoubleLongRightArrow;\x1f\u27F9\x1eDoubleRightArrow;\x1f\u21D2\x1e" ++
  "DoubleRightTee;\x1f\u22A8\x1eDoubleUpArrow;\x1f\u21D1\x1eDoubleUpDownArrow;\x1f\u21D5\x1e" ++
  "DoubleVerticalBar;\x1f\u2225\x1eDownArrow;\x1f\u2193\x1eDownArrowBar;\x1f\u2913\x1e" ++
  "DownArrowUpArrow;\x1f\u21F5\x1eDownBreve;\x1f\u0311\x1eDownLeftRightVector;\x1f\u2950\x1e" ++
  "DownLeftTeeVector;\x1f\u295E\x1eDownLeftVector;\x1f\u21BD\x1e" ++
  "DownLeftVectorBar;\x1f\u2956\x1eDownRightTeeVector;\x1f\u295F\x1e" ++
  "DownRightVector;\x1f\u21C1\x1eDownRightVectorBar;\x1f\u2957\x1eDownTee;\x1f\u22A4\x1e" ++
  "DownTeeArrow;\x1f\u21A7\x1eDownarrow;\x1f\u21D3\x1eDscr;\x1f𝒟\x1eDstrok;\x1f\u0110\x1e" ++
  "ENG;\x1f\u014A\x1eETH\x1f\xD0\x1eETH;\x1f\xD0\x1eEacute\x1f\xC9\x1eEacute;\x1f\xC9\x1e" ++
  "Ecaron;\x1f\u011A\x1eEcirc\x1f\xCA\x1eEcirc;\x1f\xCA\x1eEcy;\x1f\u042D\x1e" ++
  "Edot;\x1f\u0116\x1eEfr;\x1f𝔈\x1eEgrave\x1f\xC8\x1eEgrave;\x1f\xC8\x1e" ++
  "Element;\x1f\u2208\x1eEmacr;\x1f\u0112\x1eEmptySmallSquare;\x1f\u25FB\x1e" ++
  "EmptyVerySmallSquare;\x1f\u25AB\x1eEogon;\x1f\u0118\x1eEopf;\x1f𝔼\x1e" ++
  "Epsilon;\x1f\u0395\x1eEqual;\x1f\u2A75\x1eEqualTilde;\x1f\u2242\x1e" ++
  "Equilibrium;\x1f\u21CC\x1eEscr;\x1f\u2130\x1eEsim;\x1f\u2A73\x1eEta;\x1f\u0397\x1e" ++
  "Euml\x1f\xCB\x1eEuml;\x1f\xCB\x1eExists;\x1f\u2203\x1eExponentialE;\x1f\u2147\x1e" ++
  "Fcy;\x1f\u0424\x1eFfr;\x1f𝔉\x1eFilledSmallSquare;\x1f\u25FC\x1e" ++
  "FilledVerySmallSquare;\x1f\u25AA\x1eFopf;\x1f𝔽\x1eForAll;\x1f\u2200\x1e" ++
  "Fouriertrf;\x1f\u2131\x1eFscr;\x1f\u2131\x1eGJcy;\x1f\u0403\x1eGT\x1f>\x1eGT;\x1f>\x1e" ++
  "Gamma;\x1f\u0393\x1eGammad;\x1f\u03DC\x1eGbreve;\x1f\u011E\x1eGcedil;\x1f\u0122\x1e" ++
  "Gcirc;\x1f\u011C\x1eGcy;\x1f\u0413\x1eGdot;\x1f\u0120\x1eGfr;\x1f𝔊\x1eGg;\x1f\u22D9\x1e" ++
  "Gopf;\x1f𝔾\x1eGreaterEqual;\x1f\u2265\x1eGreaterEqualLess;\x1f\u22DB\x1e" ++
  "GreaterFullEqual;\x1f\u2267\x1eGreaterGreater;\x1f\u2AA2\x1eGreaterLess;\x1f\u2277\x1e" ++
  "GreaterSlantEqual;\x1f\u2A7E\x1eGreaterTilde;\x1f\u2273\x1eGscr;\x1f𝒢\x1eGt;\x1f\u226B\x1e" ++
  "HARDcy;\x1f\u042A\x1eHacek;\x1f\u02C7\x1eHat;\x1f^\x1eHcirc;\x1f\u0124\x1e" ++
  "Hfr;\x1f\u210C\x1eHilbertSpace;\x1f\u210B\x1eHopf;\x1f\u210D\x1e" ++
  "HorizontalLine;\x1f\u2500\x1eHscr;\x1f\u210B\x1eHstrok;\x1f\u0126\x1e" ++
  "HumpDownHump;\x1f\u224E\x1eHumpEqual;\x1f\u224F\x1eIEcy;\x1f\u0415\x1eIJlig;\x1f\u0132\x1e" ++
  "IOcy;\x1f\u0401\x1eIacute\x1f\xCD\x1eIacute;\x1f\xCD\x1eIcirc\x1f\xCE\x1e" ++
  "Icirc;\x1f\xCE\x1eIcy;\x1f\u0418\x1eIdot;\x1f\u0130\x1eIfr;\x1f\u2111\x1e" ++
  "Igrave\x1f\xCC\x1eIgrave;\x1f\xCC\x1eIm;\x1f\u2111\x1eImacr;\x1f\u012A\x1e" ++
  "ImaginaryI;\x1f\u2148\x1eImplies;\x1f\u21D2\x1eInt;\x1f\u222C\x1eIntegral;\x1f\u222B\x1e" ++
  "Intersection;\x1f\u22C2\x1eInvisibleComma;\x1f\u2063\x1eInvisibleTimes;\x1f\u2062\x1e" ++
  "Iogon;\x1f\u012E\x1eIopf;\x1f𝕀\x1eIota;\x1f\u0399\x1eIscr;\x1f\u2110\x1e" ++
  "Itilde;\x1f\u0128\x1eIukcy;\x1f\u0406\x1eIuml\x1f\xCF\x1eIuml;\x1f\xCF\x1e" ++
  "Jcirc;\x1f\u0134\x1eJcy;\x1f\u0419\x1eJfr;\x1f𝔍\x1eJopf;\x1f𝕁\x1eJscr;\x1f𝒥\x1e" ++
  "Jsercy;\x1f\u0408\x1eJukcy;\x1f\u0404\x1eKHcy;\x1f\u0425\x1eKJcy;\x1f\u040C\x1e" ++
  "Kappa;\x1f\u039A\x1eKcedil;\x1f\u0136\x1eKcy;\x1f\u041A\x1eKfr;\x1f𝔎\x1eKopf;\x1f𝕂\x1e" ++
  "Kscr;\x1f𝒦\x1eLJcy;\x1f\u0409\x1eLT\x1f<\x1eLT;\x1f<\x1eLacute;\x1f\u0139\x1e" ++
  "Lambda;\x1f\u039B\x1eLang;\x1f\u27EA\x1eLaplacetrf;\x1f\u2112\x1eLarr;\x1f\u219E\x1e" ++
  "Lcaron;\x1f\u013D\x1eLcedil;\x1f\u013B\x1eLcy;\x1f\u041B\x1e" ++
  "LeftAngleBracket;\x1f\u27E8\x1eLeftArrow;\x1f\u2190\x1eLeftArrowBar;\x1f\u21E4\x1e" ++
  "LeftArrowRightArrow;\x1f\u21C6\x1eLeftCeiling;\x1f\u2308\x1e" ++
  "LeftDoubleBracket;\x1f\u27E6\x1eLeftDownTeeVector;\x1f\u2961\x1e" ++
  "LeftDownVector;\x1f\u21C3\x1eLeftDownVectorBar;\x1f\u2959\x1eLeftFloor;\x1f\u230A\x1e" ++
  "LeftRightArrow;\x1f\u2194\x1eLeftRightVector;\x1f\u294E\x1eLeftTee;\x1f\u22A3\x1e" ++
  "LeftTeeArrow;\x1f\u21A4\x1eLeftTeeVector;\x1f\u295A\x1eLeftTriangle;\x1f\u22B2\x1e" ++
  "LeftTriangleBar;\x1f\u29CF\x1eLeftTriangleEqual;\x1f\u22B4\x1e" ++
  "LeftUpDownVector;\x1f\u2951\x1eLeftUpTeeVector;\x1f\u2960\x1eLeftUpVector;\x1f\u21BF\x1e" ++
  "LeftUpVectorBar;\x1f\u2958\x1eLeftVector;\x1f\u21BC\x1eLeftVectorBar;\x1f\u2952\x1e" ++
  "Leftarrow;\x1f\u21D0\x1eLeftrightarrow;\x1f\u21D4\x1eLessEqualGreater;\x1f\u22DA\x1e" ++
  "LessFullEqual;\x1f\u2266\x1eLessGreater;\x1f\u2276\x1eLessLess;\x1f\u2AA1\x1e" ++
  "LessSlantEqual;\x1f\u2A7D\x1eLessTilde;\x1f\u2272\x1eLfr;\x1f𝔏\x1eLl;\x1f\u22D8\x1e" ++
  "Lleftarrow;\x1f\u21DA\x1eLmidot;\x1f\u013F\x1eLongLeftArrow;\x1f\u27F5\x1e" ++
  "LongLeftRightArrow;\x1f\u27F7\x1eLongRightArrow;\x1f\u27F6\x1eLongleftarrow;\x1f\u27F8\x1e" ++
  "Longleftrightarrow;\x1f\u27FA\x1eLongrightarrow;\x1f\u27F9\x1eLopf;\x1f𝕃\x1e" ++
  "LowerLeftArrow;\x1f\u2199\x1eLowerRightArrow;\x1f\u2198\x1eLscr;\x1f\u2112\x1e" ++
  "Lsh;\x1f\u21B0\x1eLstrok;\x1f\u0141\x1eLt;\x1f\u226A\x1eMap;\x1f\u2905\x1e" ++
  "Mcy;\x1f\u041C\x1eMediumSpace;\x1f\u205F\x1eMellintrf;\x1f\u2133\x1eMfr;\x1f𝔐\x1e" ++
  "MinusPlus;\x1f\u2213\x1eMopf;\x1f𝕄\x1eMscr;\x1f\u2133\x1eMu;\x1f\u039C\x1e" ++
  "NJcy;\x1f\u040A\x1eNacute;\x1f\u0143\x1eNcaron;\x1f\u0147\x1eNcedil;\x1f\u0145\x1e" ++
  "Ncy;\x1f\u041D\x1eNegativeMediumSpace;\x1f\u200B\x1eNegativeThickSpace;\x1f\u200B\x1e" ++
  "NegativeThinSpace;\x1f\u200B\x1eNegativeVeryThinSpace;\x1f\u200B\x1e" ++
  "NestedGreaterGreater;\x1f\u226B\x1eNestedLessLess;\x1f\u226A\x1eNewLine;\x1f\x0A\x1e" ++
  "Nfr;\x1f𝔑\x1eNoBreak;\x1f\u2060\x1eNonBreakingSpace;\x1f\xA0\x1eNopf;\x1f\u2115\x1e" ++
  "Not;\x1f\u2AEC\x1eNotCongruent;\x1f\u2262\x1eNotCupCap;\x1f\u226D\x1e" ++
  "NotDoubleVerticalBar;\x1f\u2226\x1eNotElement;\x1f\u2209\x1eNotEqual;\x1f\u2260\x1e" ++
  "NotEqualTilde;\x1f\u2242\u0338\x1eNotExists;\x1f\u2204\x1eNotGreater;\x1f\u226F\x1e" ++
  "NotGreaterEqual;\x1f\u2271\x1eNotGreaterFullEqual;\x1f\u2267\u0338\x1e" ++
  "NotGreaterGreater;\x1f\u226B\u0338\x1eNotGreaterLess;\x1f\u2279\x1e" ++
  "NotGreaterSlantEqual;\x1f\u2A7E\u0338\x1eNotGreaterTilde;\x1f\u2275\x1e" ++
  "NotHumpDownHump;\x1f\u224E\u0338\x1eNotHumpEqual;\x1f\u224F\u0338\x1e" ++
  "NotLeftTriangle;\x1f\u22EA\x1eNotLeftTriangleBar;\x1f\u29CF\u0338\x1e" ++
  "NotLeftTriangleEqual;\x1f\u22EC\x1eNotLess;\x1f\u226E\x1eNotLessEqual;\x1f\u2270\x1e" ++
  "NotLessGreater;\x1f\u2278\x1eNotLessLess;\x1f\u226A\u0338\x1e" ++
  "NotLessSlantEqual;\x1f\u2A7D\u0338\x1eNotLessTilde;\x1f\u2274\x1e" ++
  "NotNestedGreaterGreater;\x1f\u2AA2\u0338\x1eNotNestedLessLess;\x1f\u2AA1\u0338\x1e" ++
  "NotPrecedes;\x1f\u2280\x1eNotPrecedesEqual;\x1f\u2AAF\u0338\x1e" ++
  "NotPrecedesSlantEqual;\x1f\u22E0\x1eNotReverseElement;\x1f\u220C\x1e" ++
  "NotRightTriangle;\x1f\u22EB\x1eNotRightTriangleBar;\x1f\u29D0\u0338\x1e" ++
  "NotRightTriangleEqual;\x1f\u22ED\x1eNotSquareSubset;\x1f\u228F\u0338\x1e" ++
  "NotSquareSubsetEqual;\x1f\u22E2\x1eNotSquareSuperset;\x1f\u2290\u0338\x1e" ++
  "NotSquareSupersetEqual;\x1f\u22E3\x1eNotSubset;\x1f\u2282\u20D2\x1e" ++
  "NotSubsetEqual;\x1f\u2288\x1eNotSucceeds;\x1f\u2281\x1e" ++
  "NotSucceedsEqual;\x1f\u2AB0\u0338\x1eNotSucceedsSlantEqual;\x1f\u22E1\x1e" ++
  "NotSucceedsTilde;\x1f\u227F\u0338\x1eNotSuperset;\x1f\u2283\u20D2\x1e" ++
  "NotSupersetEqual;\x1f\u2289\x1eNotTilde;\x1f\u2241\x1eNotTildeEqual;\x1f\u2244\x1e" ++
  "NotTildeFullEqual;\x1f\u2247\x1eNotTildeTilde;\x1f\u2249\x1eNotVerticalBar;\x1f\u2224\x1e" ++
  "Nscr;\x1f𝒩\x1eNtilde\x1f\xD1\x1eNtilde;\x1f\xD1\x1eNu;\x1f\u039D\x1eOElig;\x1f\u0152\x1e" ++
  "Oacute\x1f\xD3\x1eOacute;\x1f\xD3\x1eOcirc\x1f\xD4\x1eOcirc;\x1f\xD4\x1eOcy;\x1f\u041E\x1e" ++
  "Odblac;\x1f\u0150\x1eOfr;\x1f𝔒\x1eOgrave\x1f\xD2\x1eOgrave;\x1f\xD2\x1e" ++
  "Omacr;\x1f\u014C\x1eOmega;\x1f\u03A9\x1eOmicron;\x1f\u039F\x1eOopf;\x1f𝕆\x1e" ++
  "OpenCurlyDoubleQuote;\x1f\u201C\x1eOpenCurlyQuote;\x1f\u2018\x1eOr;\x1f\u2A54\x1e" ++
  "Oscr;\x1f𝒪\x1eOslash\x1f\xD8\x1eOslash;\x1f\xD8\x1eOtilde\x1f\xD5\x1eOtilde;\x1f\xD5\x1e" ++
  "Otimes;\x1f\u2A37\x1eOuml\x1f\xD6\x1eOuml;\x1f\xD6\x1eOverBar;\x1f\u203E\x1e" ++
  "OverBrace;\x1f\u23DE\x1eOverBracket;\x1f\u23B4\x1eOverParenthesis;\x1f\u23DC\x1e" ++
  "PartialD;\x1f\u2202\x1ePcy;\x1f\u041F\x1ePfr;\x1f𝔓\x1ePhi;\x1f\u03A6\x1ePi;\x1f\u03A0\x1e" ++
  "PlusMinus;\x1f\xB1\x1ePoincareplane;\x1f\u210C\x1ePopf;\x1f\u2119\x1ePr;\x1f\u2ABB\x1e" ++
  "Precedes;\x1f\u227A\x1ePrecedesEqual;\x1f\u2AAF\x1ePrecedesSlantEqual;\x1f\u227C\x1e" ++
  "PrecedesTilde;\x1f\u227E\x1ePrime;\x1f\u2033\x1eProduct;\x1f\u220F\x1e" ++
  "Proportion;\x1f\u2237\x1eProportional;\x1f\u221D\x1ePscr;\x1f𝒫\x1ePsi;\x1f\u03A8\x1e" ++
  "QUOT\x1f\"\x1eQUOT;\x1f\"\x1eQfr;\x1f𝔔\x1eQopf;\x1f\u211A\x1eQscr;\x1f𝒬\x1e" ++
  "RBarr;\x1f\u2910\x1eREG\x1f\xAE\x1eREG;\x1f\xAE\x1eRacute;\x1f\u0154\x1e" ++
  "Rang;\x1f\u27EB\x1eRarr;\x1f\u21A0\x1eRarrtl;\x1f\u2916\x1eRcaron;\x1f\u0158\x1e" ++
  "Rcedil;\x1f\u0156\x1eRcy;\x1f\u0420\x1eRe;\x1f\u211C\x1eReverseElement;\x1f\u220B\x1e" ++
  "ReverseEquilibrium;\x1f\u21CB\x1eReverseUpEquilibrium;\x1f\u296F\x1eRfr;\x1f\u211C\x1e" ++
  "Rho;\x1f\u03A1\x1eRightAngleBracket;\x1f\u27E9\x1eRightArrow;\x1f\u2192\x1e" ++
  "RightArrowBar;\x1f\u21E5\x1eRightArrowLeftArrow;\x1f\u21C4\x1eRightCeiling;\x1f\u2309\x1e" ++
  "RightDoubleBracket;\x1f\u27E7\x1eRightDownTeeVector;\x1f\u295D\x1e" ++
  "RightDownVector;\x1f\u21C2\x1eRightDownVectorBar;\x1f\u2955\x1eRightFloor;\x1f\u230B\x1e" ++
  "RightTee;\x1f\u22A2\x1eRightTeeArrow;\x1f\u21A6\x1eRightTeeVector;\x1f\u295B\x1e" ++
  "RightTriangle;\x1f\u22B3\x1eRightTriangleBar;\x1f\u29D0\x1e" ++
  "RightTriangleEqual;\x1f\u22B5\x1eRightUpDownVector;\x1f\u294F\x1e" ++
  "RightUpTeeVector;\x1f\u295C\x1eRightUpVector;\x1f\u21BE\x1eRightUpVectorBar;\x1f\u2954\x1e" ++
  "RightVector;\x1f\u21C0\x1eRightVectorBar;\x1f\u2953\x1eRightarrow;\x1f\u21D2\x1e" ++
  "Ropf;\x1f\u211D\x1eRoundImplies;\x1f\u2970\x1eRrightarrow;\x1f\u21DB\x1e" ++
  "Rscr;\x1f\u211B\x1eRsh;\x1f\u21B1\x1eRuleDelayed;\x1f\u29F4\x1eSHCHcy;\x1f\u0429\x1e" ++
  "SHcy;\x1f\u0428\x1eSOFTcy;\x1f\u042C\x1eSacute;\x1f\u015A\x1eSc;\x1f\u2ABC\x1e" ++
  "Scaron;\x1f\u0160\x1eScedil;\x1f\u015E\x1eScirc;\x1f\u015C\x1eScy;\x1f\u0421\x1e" ++
  "Sfr;\x1f𝔖\x1eShortDownArrow;\x1f\u2193\x1eShortLeftArrow;\x1f\u2190\x1e" ++
  "ShortRightArrow;\x1f\u2192\x1eShortUpArrow;\x1f\u2191\x1eSigma;\x1f\u03A3\x1e" ++
  "SmallCircle;\x1f\u2218\x1eSopf;\x1f𝕊\x1eSqrt;\x1f\u221A\x1eSquare;\x1f\u25A1\x1e" ++
  "SquareIntersection;\x1f\u2293\x1eSquareSubset;\x1f\u228F\x1e" ++
  "SquareSubsetEqual;\x1f\u2291\x1eSquareSuperset;\x1f\u2290\x1e" ++
  "SquareSupersetEqual;\x1f\u2292\x1eSquareUnion;\x1f\u2294\x1eSscr;\x1f𝒮\x1e" ++
  "Star;\x1f\u22C6\x1eSub;\x1f\u22D0\x1eSubset;\x1f\u22D0\x1eSubsetEqual;\x1f\u2286\x1e" ++
  "Succeeds;\x1f\u227B\x1eSucceedsEqual;\x1f\u2AB0\x1eSucceedsSlantEqual;\x1f\u227D\x1e" ++
  "SucceedsTilde;\x1f\u227F\x1eSuchThat;\x1f\u220B\x1eSum;\x1f\u2211\x1eSup;\x1f\u22D1\x1e" ++
  "Superset;\x1f\u2283\x1eSupersetEqual;\x1f\u2287\x1eSupset;\x1f\u22D1\x1eTHORN\x1f\xDE\x1e" ++
  "THORN;\x1f\xDE\x1eTRADE;\x1f\u2122\x1eTSHcy;\x1f\u040B\x1eTScy;\x1f\u0426\x1e" ++
  "Tab;\x1f\x09\x1eTau;\x1f\u03A4\x1eTcaron;\x1f\u0164\x1eTcedil;\x1f\u0162\x1e" ++
  "Tcy;\x1f\u0422\x1eTfr;\x1f𝔗\x1eTherefore;\x1f\u2234\x1eTheta;\x1f\u0398\x1e" ++
  "ThickSpace;\x1f\u205F\u200A\x1eThinSpace;\x1f\u2009\x1eTilde;\x1f\u223C\x1e" ++
  "TildeEqual;\x1f\u2243\x1eTildeFullEqual;\x1f\u2245\x1eTildeTilde;\x1f\u2248\x1e" ++
  "Topf;\x1f𝕋\x1eTripleDot;\x1f\u20DB\x1eTscr;\x1f𝒯\x1eTstrok;\x1f\u0166\x1e" ++
  "Uacute\x1f\xDA\x1eUacute;\x1f\xDA\x1eUarr;\x1f\u219F\x1eUarrocir;\x1f\u2949\x1e" ++
  "Ubrcy;\x1f\u040E\x1eUbreve;\x1f\u016C\x1eUcirc\x1f\xDB\x1eUcirc;\x1f\xDB\x1e" ++
  "Ucy;\x1f\u0423\x1eUdblac;\x1f\u0170\x1eUfr;\x1f𝔘\x1eUgrave\x1f\xD9\x1eUgrave;\x1f\xD9\x1e" ++
  "Umacr;\x1f\u016A\x1eUnderBar;\x1f_\x1eUnderBrace;\x1f\u23DF\x1eUnderBracket;\x1f\u23B5\x1e" ++
  "UnderParenthesis;\x1f\u23DD\x1eUnion;\x1f\u22C3\x1eUnionPlus;\x1f\u228E\x1e" ++
  "Uogon;\x1f\u0172\x1eUopf;\x1f𝕌\x1eUpArrow;\x1f\u2191\x1eUpArrowBar;\x1f\u2912\x1e" ++
  "UpArrowDownArrow;\x1f\u21C5\x1eUpDownArrow;\x1f\u2195\x1eUpEquilibrium;\x1f\u296E\x1e" ++
  "UpTee;\x1f\u22A5\x1eUpTeeArrow;\x1f\u21A5\x1eUparrow;\x1f\u21D1\x1e" ++
  "Updownarrow;\x1f\u21D5\x1eUpperLeftArrow;\x1f\u2196\x1eUpperRightArrow;\x1f\u2197\x1e" ++
  "Upsi;\x1f\u03D2\x1eUpsilon;\x1f\u03A5\x1eUring;\x1f\u016E\x1eUscr;\x1f𝒰\x1e" ++
  "Utilde;\x1f\u0168\x1eUuml\x1f\xDC\x1eUuml;\x1f\xDC\x1eVDash;\x1f\u22AB\x1e" ++
  "Vbar;\x1f\u2AEB\x1eVcy;\x1f\u0412\x1eVdash;\x1f\u22A9\x1eVdashl;\x1f\u2AE6\x1e" ++
  "Vee;\x1f\u22C1\x1eVerbar;\x1f\u2016\x1eVert;\x1f\u2016\x1eVerticalBar;\x1f\u2223\x1e" ++
  "VerticalLine;\x1f|\x1eVerticalSeparator;\x1f\u2758\x1eVerticalTilde;\x1f\u2240\x1e" ++
  "VeryThinSpace;\x1f\u200A\x1eVfr;\x1f𝔙\x1eVopf;\x1f𝕍\x1eVscr;\x1f𝒱\x1eVvdash;\x1f\u22AA\x1e" ++
  "Wcirc;\x1f\u0174\x1eWedge;\x1f\u22C0\x1eWfr;\x1f𝔚\x1eWopf;\x1f𝕎\x1eWscr;\x1f𝒲\x1e" ++
  "Xfr;\x1f𝔛\x1eXi;\x1f\u039E\x1eXopf;\x1f𝕏\x1eXscr;\x1f𝒳\x1eYAcy;\x1f\u042F\x1e" ++
  "YIcy;\x1f\u0407\x1eYUcy;\x1f\u042E\x1eYacute\x1f\xDD\x1eYacute;\x1f\xDD\x1e" ++
  "Ycirc;\x1f\u0176\x1eYcy;\x1f\u042B\x1eYfr;\x1f𝔜\x1eYopf;\x1f𝕐\x1eYscr;\x1f𝒴\x1e" ++
  "Yuml;\x1f\u0178\x1eZHcy;\x1f\u0416\x1eZacute;\x1f\u0179\x1eZcaron;\x1f\u017D\x1e" ++
  "Zcy;\x1f\u0417\x1eZdot;\x1f\u017B\x1eZeroWidthSpace;\x1f\u200B\x1eZeta;\x1f\u0396\x1e" ++
  "Zfr;\x1f\u2128\x1eZopf;\x1f\u2124\x1eZscr;\x1f𝒵\x1eaacute\x1f\xE1\x1eaacute;\x1f\xE1\x1e" ++
  "abreve;\x1f\u0103\x1eac;\x1f\u223E\x1eacE;\x1f\u223E\u0333\x1eacd;\x1f\u223F\x1e" ++
  "acirc\x1f\xE2\x1eacirc;\x1f\xE2\x1eacute\x1f\xB4\x1eacute;\x1f\xB4\x1eacy;\x1f\u0430\x1e" ++
  "aelig\x1f\xE6\x1eaelig;\x1f\xE6\x1eaf;\x1f\u2061\x1eafr;\x1f𝔞\x1eagrave\x1f\xE0\x1e" ++
  "agrave;\x1f\xE0\x1ealefsym;\x1f\u2135\x1ealeph;\x1f\u2135\x1ealpha;\x1f\u03B1\x1e" ++
  "amacr;\x1f\u0101\x1eamalg;\x1f\u2A3F\x1eamp\x1f&\x1eamp;\x1f&\x1eand;\x1f\u2227\x1e" ++
  "andand;\x1f\u2A55\x1eandd;\x1f\u2A5C\x1eandslope;\x1f\u2A58\x1eandv;\x1f\u2A5A\x1e" ++
  "ang;\x1f\u2220\x1eange;\x1f\u29A4\x1eangle;\x1f\u2220\x1eangmsd;\x1f\u2221\x1e" ++
  "angmsdaa;\x1f\u29A8\x1eangmsdab;\x1f\u29A9\x1eangmsdac;\x1f\u29AA\x1e" ++
  "angmsdad;\x1f\u29AB\x1eangmsdae;\x1f\u29AC\x1eangmsdaf;\x1f\u29AD\x1e" ++
  "angmsdag;\x1f\u29AE\x1eangmsdah;\x1f\u29AF\x1eangrt;\x1f\u221F\x1eangrtvb;\x1f\u22BE\x1e" ++
  "angrtvbd;\x1f\u299D\x1eangsph;\x1f\u2222\x1eangst;\x1f\xC5\x1eangzarr;\x1f\u237C\x1e" ++
  "aogon;\x1f\u0105\x1eaopf;\x1f𝕒\x1eap;\x1f\u2248\x1eapE;\x1f\u2A70\x1eapacir;\x1f\u2A6F\x1e" ++
  "ape;\x1f\u224A\x1eapid;\x1f\u224B\x1eapos;\x1f'\x1eapprox;\x1f\u2248\x1e" ++
  "approxeq;\x1f\u224A\x1earing\x1f\xE5\x1earing;\x1f\xE5\x1eascr;\x1f𝒶\x1east;\x1f*\x1e" ++
  "asymp;\x1f\u2248\x1easympeq;\x1f\u224D\x1eatilde\x1f\xE3\x1eatilde;\x1f\xE3\x1e" ++
  "auml\x1f\xE4\x1eauml;\x1f\xE4\x1eawconint;\x1f\u2233\x1eawint;\x1f\u2A11\x1e" ++
  "bNot;\x1f\u2AED\x1ebackcong;\x1f\u224C\x1ebackepsilon;\x1f\u03F6\x1e" ++
  "backprime;\x1f\u2035\x1ebacksim;\x1f\u223D\x1ebacksimeq;\x1f\u22CD\x1e" ++
  "barvee;\x1f\u22BD\x1ebarwed;\x1f\u2305\x1ebarwedge;\x1f\u2305\x1ebbrk;\x1f\u23B5\x1e" ++
  "bbrktbrk;\x1f\u23B6\x1ebcong;\x1f\u224C\x1ebcy;\x1f\u0431\x1ebdquo;\x1f\u201E\x1e" ++
  "becaus;\x1f\u2235\x1ebecause;\x1f\u2235\x1ebemptyv;\x1f\u29B0\x1ebepsi;\x1f\u03F6\x1e" ++
  "bernou;\x1f\u212C\x1ebeta;\x1f\u03B2\x1ebeth;\x1f\u2136\x1ebetween;\x1f\u226C\x1e" ++
  "bfr;\x1f𝔟\x1ebigcap;\x1f\u22C2\x1ebigcirc;\x1f\u25EF\x1ebigcup;\x1f\u22C3\x1e" ++
  "bigodot;\x1f\u2A00\x1ebigoplus;\x1f\u2A01\x1ebigotimes;\x1f\u2A02\x1e" ++
  "bigsqcup;\x1f\u2A06\x1ebigstar;\x1f\u2605\x1ebigtriangledown;\x1f\u25BD\x1e" ++
  "bigtriangleup;\x1f\u25B3\x1ebiguplus;\x1f\u2A04\x1ebigvee;\x1f\u22C1\x1e" ++
  "bigwedge;\x1f\u22C0\x1ebkarow;\x1f\u290D\x1eblacklozenge;\x1f\u29EB\x1e" ++
  "blacksquare;\x1f\u25AA\x1eblacktriangle;\x1f\u25B4\x1eblacktriangledown;\x1f\u25BE\x1e" ++
  "blacktriangleleft;\x1f\u25C2\x1eblacktriangleright;\x1f\u25B8\x1eblank;\x1f\u2423\x1e" ++
  "blk12;\x1f\u2592\x1eblk14;\x1f\u2591\x1eblk34;\x1f\u2593\x1eblock;\x1f\u2588\x1e" ++
  "bne;\x1f=\u20E5\x1ebnequiv;\x1f\u2261\u20E5\x1ebnot;\x1f\u2310\x1ebopf;\x1f𝕓\x1e" ++
  "bot;\x1f\u22A5\x1ebottom;\x1f\u22A5\x1ebowtie;\x1f\u22C8\x1eboxDL;\x1f\u2557\x1e" ++
  "boxDR;\x1f\u2554\x1eboxDl;\x1f\u2556\x1eboxDr;\x1f\u2553\x1eboxH;\x1f\u2550\x1e" ++
  "boxHD;\x1f\u2566\x1eboxHU;\x1f\u2569\x1eboxHd;\x1f\u2564\x1eboxHu;\x1f\u2567\x1e" ++
  "boxUL;\x1f\u255D\x1eboxUR;\x1f\u255A\x1eboxUl;\x1f\u255C\x1eboxUr;\x1f\u2559\x1e" ++
  "boxV;\x1f\u2551\x1eboxVH;\x1f\u256C\x1eboxVL;\x1f\u2563\x1eboxVR;\x1f\u2560\x1e" ++
  "boxVh;\x1f\u256B\x1eboxVl;\x1f\u2562\x1eboxVr;\x1f\u255F\x1eboxbox;\x1f\u29C9\x1e" ++
  "boxdL;\x1f\u2555\x1eboxdR;\x1f\u2552\x1eboxdl;\x1f\u2510\x1eboxdr;\x1f\u250C\x1e" ++
  "boxh;\x1f\u2500\x1eboxhD;\x1f\u2565\x1eboxhU;\x1f\u2568\x1eboxhd;\x1f\u252C\x1e" ++
  "boxhu;\x1f\u2534\x1eboxminus;\x1f\u229F\x1eboxplus;\x1f\u229E\x1eboxtimes;\x1f\u22A0\x1e" ++
  "boxuL;\x1f\u255B\x1eboxuR;\x1f\u2558\x1eboxul;\x1f\u2518\x1eboxur;\x1f\u2514\x1e" ++
  "boxv;\x1f\u2502\x1eboxvH;\x1f\u256A\x1eboxvL;\x1f\u2561\x1eboxvR;\x1f\u255E\x1e" ++
  "boxvh;\x1f\u253C\x1eboxvl;\x1f\u2524\x1eboxvr;\x1f\u251C\x1ebprime;\x1f\u2035\x1e" ++
  "breve;\x1f\u02D8\x1ebrvbar\x1f\xA6\x1ebrvbar;\x1f\xA6\x1ebscr;\x1f𝒷\x1e" ++
  "bsemi;\x1f\u204F\x1ebsim;\x1f\u223D\x1ebsime;\x1f\u22CD\x1ebsol;\x1f\\\x1e" ++
  "bsolb;\x1f\u29C5\x1ebsolhsub;\x1f\u27C8\x1ebull;\x1f\u2022\x1ebullet;\x1f\u2022\x1e" ++
  "bump;\x1f\u224E\x1ebumpE;\x1f\u2AAE\x1ebumpe;\x1f\u224F\x1ebumpeq;\x1f\u224F\x1e" ++
  "cacute;\x1f\u0107\x1ecap;\x1f\u2229\x1ecapand;\x1f\u2A44\x1ecapbrcup;\x1f\u2A49\x1e" ++
  "capcap;\x1f\u2A4B\x1ecapcup;\x1f\u2A47\x1ecapdot;\x1f\u2A40\x1ecaps;\x1f\u2229\uFE00\x1e" ++
  "caret;\x1f\u2041\x1ecaron;\x1f\u02C7\x1eccaps;\x1f\u2A4D\x1eccaron;\x1f\u010D\x1e" ++
  "ccedil\x1f\xE7\x1eccedil;\x1f\xE7\x1eccirc;\x1f\u0109\x1eccups;\x1f\u2A4C\x1e" ++
  "ccupssm;\x1f\u2A50\x1ecdot;\x1f\u010B\x1ecedil\x1f\xB8\x1ecedil;\x1f\xB8\x1e" ++
  "cemptyv;\x1f\u29B2\x1ecent\x1f\xA2\x1ecent;\x1f\xA2\x1ecenterdot;\x1f\xB7\x1ecfr;\x1f𝔠\x1e" ++
  "chcy;\x1f\u0447\x1echeck;\x1f\u2713\x1echeckmark;\x1f\u2713\x1echi;\x1f\u03C7\x1e" ++
  "cir;\x1f\u25CB\x1ecirE;\x1f\u29C3\x1ecirc;\x1f\u02C6\x1ecirceq;\x1f\u2257\x1e" ++
  "circlearrowleft;\x1f\u21BA\x1ecirclearrowright;\x1f\u21BB\x1ecircledR;\x1f\xAE\x1e" ++
  "circledS;\x1f\u24C8\x1ecircledast;\x1f\u229B\x1ecircledcirc;\x1f\u229A\x1e" ++
  "circleddash;\x1f\u229D\x1ecire;\x1f\u2257\x1ecirfnint;\x1f\u2A10\x1ecirmid;\x1f\u2AEF\x1e" ++
  "cirscir;\x1f\u29C2\x1eclubs;\x1f\u2663\x1eclubsuit;\x1f\u2663\x1ecolon;\x1f:\x1e" ++
  "colone;\x1f\u2254\x1ecoloneq;\x1f\u2254\x1ecomma;\x1f,\x1ecommat;\x1f@\x1e" ++
  "comp;\x1f\u2201\x1ecompfn;\x1f\u2218\x1ecomplement;\x1f\u2201\x1ecomplexes;\x1f\u2102\x1e" ++
  "cong;\x1f\u2245\x1econgdot;\x1f\u2A6D\x1econint;\x1f\u222E\x1ecopf;\x1f𝕔\x1e" ++
  "coprod;\x1f\u2210\x1ecopy\x1f\xA9\x1ecopy;\x1f\xA9\x1ecopysr;\x1f\u2117\x1e" ++
  "crarr;\x1f\u21B5\x1ecross;\x1f\u2717\x1ecscr;\x1f𝒸\x1ecsub;\x1f\u2ACF\x1e" ++
  "csube;\x1f\u2AD1\x1ecsup;\x1f\u2AD0\x1ecsupe;\x1f\u2AD2\x1ectdot;\x1f\u22EF\x1e" ++
  "cudarrl;\x1f\u2938\x1ecudarrr;\x1f\u2935\x1ecuepr;\x1f\u22DE\x1ecuesc;\x1f\u22DF\x1e" ++
  "cularr;\x1f\u21B6\x1ecularrp;\x1f\u293D\x1ecup;\x1f\u222A\x1ecupbrcap;\x1f\u2A48\x1e" ++
  "cupcap;\x1f\u2A46\x1ecupcup;\x1f\u2A4A\x1ecupdot;\x1f\u228D\x1ecupor;\x1f\u2A45\x1e" ++
  "cups;\x1f\u222A\uFE00\x1ecurarr;\x1f\u21B7\x1ecurarrm;\x1f\u293C\x1e" ++
  "curlyeqprec;\x1f\u22DE\x1ecurlyeqsucc;\x1f\u22DF\x1ecurlyvee;\x1f\u22CE\x1e" ++
  "curlywedge;\x1f\u22CF\x1ecurren\x1f\xA4\x1ecurren;\x1f\xA4\x1e" ++
  "curvearrowleft;\x1f\u21B6\x1ecurvearrowright;\x1f\u21B7\x1ecuvee;\x1f\u22CE\x1e" ++
  "cuwed;\x1f\u22CF\x1ecwconint;\x1f\u2232\x1ecwint;\x1f\u2231\x1ecylcty;\x1f\u232D\x1e" ++
  "dArr;\x1f\u21D3\x1edHar;\x1f\u2965\x1edagger;\x1f\u2020\x1edaleth;\x1f\u2138\x1e" ++
  "darr;\x1f\u2193\x1edash;\x1f\u2010\x1edashv;\x1f\u22A3\x1edbkarow;\x1f\u290F\x1e" ++
  "dblac;\x1f\u02DD\x1edcaron;\x1f\u010F\x1edcy;\x1f\u0434\x1edd;\x1f\u2146\x1e" ++
  "ddagger;\x1f\u2021\x1eddarr;\x1f\u21CA\x1eddotseq;\x1f\u2A77\x1edeg\x1f\xB0\x1e" ++
  "deg;\x1f\xB0\x1edelta;\x1f\u03B4\x1edemptyv;\x1f\u29B1\x1edfisht;\x1f\u297F\x1e" ++
  "dfr;\x1f𝔡\x1edharl;\x1f\u21C3\x1edharr;\x1f\u21C2\x1ediam;\x1f\u22C4\x1e" ++
  "diamond;\x1f\u22C4\x1ediamondsuit;\x1f\u2666\x1ediams;\x1f\u2666\x1edie;\x1f\xA8\x1e" ++
  "digamma;\x1f\u03DD\x1edisin;\x1f\u22F2\x1ediv;\x1f\xF7\x1edivide\x1f\xF7\x1e" ++
  "divide;\x1f\xF7\x1edivideontimes;\x1f\u22C7\x1edivonx;\x1f\u22C7\x1edjcy;\x1f\u0452\x1e" ++
  "dlcorn;\x1f\u231E\x1edlcrop;\x1f\u230D\x1edollar;\x1f$\x1edopf;\x1f𝕕\x1edot;\x1f\u02D9\x1e" ++
  "doteq;\x1f\u2250\x1edoteqdot;\x1f\u2251\x1edotminus;\x1f\u2238\x1edotplus;\x1f\u2214\x1e" ++
  "dotsquare;\x1f\u22A1\x1edoublebarwedge;\x1f\u2306\x1edownarrow;\x1f\u2193\x1e" ++
  "downdownarrows;\x1f\u21CA\x1edownharpoonleft;\x1f\u21C3\x1edownharpoonright;\x1f\u21C2\x1e" ++
  "drbkarow;\x1f\u2910\x1edrcorn;\x1f\u231F\x1edrcrop;\x1f\u230C\x1edscr;\x1f𝒹\x1e" ++
  "dscy;\x1f\u0455\x1edsol;\x1f\u29F6\x1edstrok;\x1f\u0111\x1edtdot;\x1f\u22F1\x1e" ++
  "dtri;\x1f\u25BF\x1edtrif;\x1f\u25BE\x1eduarr;\x1f\u21F5\x1eduhar;\x1f\u296F\x1e" ++
  "dwangle;\x1f\u29A6\x1edzcy;\x1f\u045F\x1edzigrarr;\x1f\u27FF\x1eeDDot;\x1f\u2A77\x1e" ++
  "eDot;\x1f\u2251\x1eeacute\x1f\xE9\x1eeacute;\x1f\xE9\x1eeaster;\x1f\u2A6E\x1e" ++
  "ecaron;\x1f\u011B\x1eecir;\x1f\u2256\x1eecirc\x1f\xEA\x1eecirc;\x1f\xEA\x1e" ++
  "ecolon;\x1f\u2255\x1eecy;\x1f\u044D\x1eedot;\x1f\u0117\x1eee;\x1f\u2147\x1e" ++
  "efDot;\x1f\u2252\x1eefr;\x1f𝔢\x1eeg;\x1f\u2A9A\x1eegrave\x1f\xE8\x1eegrave;\x1f\xE8\x1e" ++
  "egs;\x1f\u2A96\x1eegsdot;\x1f\u2A98\x1eel;\x1f\u2A99\x1eelinters;\x1f\u23E7\x1e" ++
  "ell;\x1f\u2113\x1eels;\x1f\u2A95\x1eelsdot;\x1f\u2A97\x1eemacr;\x1f\u0113\x1e" ++
  "empty;\x1f\u2205\x1eemptyset;\x1f\u2205\x1eemptyv;\x1f\u2205\x1eemsp13;\x1f\u2004\x1e" ++
  "emsp14;\x1f\u2005\x1eemsp;\x1f\u2003\x1eeng;\x1f\u014B\x1eensp;\x1f\u2002\x1e" ++
  "eogon;\x1f\u0119\x1eeopf;\x1f𝕖\x1eepar;\x1f\u22D5\x1eeparsl;\x1f\u29E3\x1e" ++
  "eplus;\x1f\u2A71\x1eepsi;\x1f\u03B5\x1eepsilon;\x1f\u03B5\x1eepsiv;\x1f\u03F5\x1e" ++
  "eqcirc;\x1f\u2256\x1eeqcolon;\x1f\u2255\x1eeqsim;\x1f\u2242\x1eeqslantgtr;\x1f\u2A96\x1e" ++
  "eqslantless;\x1f\u2A95\x1eequals;\x1f=\x1eequest;\x1f\u225F\x1eequiv;\x1f\u2261\x1e" ++
  "equivDD;\x1f\u2A78\x1eeqvparsl;\x1f\u29E5\x1eerDot;\x1f\u2253\x1eerarr;\x1f\u2971\x1e" ++
  "escr;\x1f\u212F\x1eesdot;\x1f\u2250\x1eesim;\x1f\u2242\x1eeta;\x1f\u03B7\x1e" ++
  "eth\x1f\xF0\x1eeth;\x1f\xF0\x1eeuml\x1f\xEB\x1eeuml;\x1f\xEB\x1eeuro;\x1f\u20AC\x1e" ++
  "excl;\x1f!\x1eexist;\x1f\u2203\x1eexpectation;\x1f\u2130\x1eexponentiale;\x1f\u2147\x1e" ++
  "fallingdotseq;\x1f\u2252\x1efcy;\x1f\u0444\x1efemale;\x1f\u2640\x1effilig;\x1f\uFB03\x1e" ++
  "fflig;\x1f\uFB00\x1effllig;\x1f\uFB04\x1effr;\x1f𝔣\x1efilig;\x1f\uFB01\x1efjlig;\x1ffj\x1e" ++
  "flat;\x1f\u266D\x1efllig;\x1f\uFB02\x1efltns;\x1f\u25B1\x1efnof;\x1f\u0192\x1e" ++
  "fopf;\x1f𝕗\x1eforall;\x1f\u2200\x1efork;\x1f\u22D4\x1eforkv;\x1f\u2AD9\x1e" ++
  "fpartint;\x1f\u2A0D\x1efrac12\x1f\xBD\x1efrac12;\x1f\xBD\x1efrac13;\x1f\u2153\x1e" ++
  "frac14\x1f\xBC\x1efrac14;\x1f\xBC\x1efrac15;\x1f\u2155\x1efrac16;\x1f\u2159\x1e" ++
  "frac18;\x1f\u215B\x1efrac23;\x1f\u2154\x1efrac25;\x1f\u2156\x1efrac34\x1f\xBE\x1e" ++
  "frac34;\x1f\xBE\x1efrac35;\x1f\u2157\x1efrac38;\x1f\u215C\x1efrac45;\x1f\u2158\x1e" ++
  "frac56;\x1f\u215A\x1efrac58;\x1f\u215D\x1efrac78;\x1f\u215E\x1efrasl;\x1f\u2044\x1e" ++
  "frown;\x1f\u2322\x1efscr;\x1f𝒻\x1egE;\x1f\u2267\x1egEl;\x1f\u2A8C\x1egacute;\x1f\u01F5\x1e" ++
  "gamma;\x1f\u03B3\x1egammad;\x1f\u03DD\x1egap;\x1f\u2A86\x1egbreve;\x1f\u011F\x1e" ++
  "gcirc;\x1f\u011D\x1egcy;\x1f\u0433\x1egdot;\x1f\u0121\x1ege;\x1f\u2265\x1e" ++
  "gel;\x1f\u22DB\x1egeq;\x1f\u2265\x1egeqq;\x1f\u2267\x1egeqslant;\x1f\u2A7E\x1e" ++
  "ges;\x1f\u2A7E\x1egescc;\x1f\u2AA9\x1egesdot;\x1f\u2A80\x1egesdoto;\x1f\u2A82\x1e" ++
  "gesdotol;\x1f\u2A84\x1egesl;\x1f\u22DB\uFE00\x1egesles;\x1f\u2A94\x1egfr;\x1f𝔤\x1e" ++
  "gg;\x1f\u226B\x1eggg;\x1f\u22D9\x1egimel;\x1f\u2137\x1egjcy;\x1f\u0453\x1e" ++
  "gl;\x1f\u2277\x1eglE;\x1f\u2A92\x1egla;\x1f\u2AA5\x1eglj;\x1f\u2AA4\x1egnE;\x1f\u2269\x1e" ++
  "gnap;\x1f\u2A8A\x1egnapprox;\x1f\u2A8A\x1egne;\x1f\u2A88\x1egneq;\x1f\u2A88\x1e" ++
  "gneqq;\x1f\u2269\x1egnsim;\x1f\u22E7\x1egopf;\x1f𝕘\x1egrave;\x1f`\x1egscr;\x1f\u210A\x1e" ++
  "gsim;\x1f\u2273\x1egsime;\x1f\u2A8E\x1egsiml;\x1f\u2A90\x1egt\x1f>\x1egt;\x1f>\x1e" ++
  "gtcc;\x1f\u2AA7\x1egtcir;\x1f\u2A7A\x1egtdot;\x1f\u22D7\x1egtlPar;\x1f\u2995\x1e" ++
  "gtquest;\x1f\u2A7C\x1egtrapprox;\x1f\u2A86\x1egtrarr;\x1f\u2978\x1egtrdot;\x1f\u22D7\x1e" ++
  "gtreqless;\x1f\u22DB\x1egtreqqless;\x1f\u2A8C\x1egtrless;\x1f\u2277\x1e" ++
  "gtrsim;\x1f\u2273\x1egvertneqq;\x1f\u2269\uFE00\x1egvnE;\x1f\u2269\uFE00\x1e" ++
  "hArr;\x1f\u21D4\x1ehairsp;\x1f\u200A\x1ehalf;\x1f\xBD\x1ehamilt;\x1f\u210B\x1e" ++
  "hardcy;\x1f\u044A\x1eharr;\x1f\u2194\x1eharrcir;\x1f\u2948\x1eharrw;\x1f\u21AD\x1e" ++
  "hbar;\x1f\u210F\x1ehcirc;\x1f\u0125\x1ehearts;\x1f\u2665\x1eheartsuit;\x1f\u2665\x1e" ++
  "hellip;\x1f\u2026\x1ehercon;\x1f\u22B9\x1ehfr;\x1f𝔥\x1ehksearow;\x1f\u2925\x1e" ++
  "hkswarow;\x1f\u2926\x1ehoarr;\x1f\u21FF\x1ehomtht;\x1f\u223B\x1e" ++
  "hookleftarrow;\x1f\u21A9\x1ehookrightarrow;\x1f\u21AA\x1ehopf;\x1f𝕙\x1e" ++
  "horbar;\x1f\u2015\x1ehscr;\x1f𝒽\x1ehslash;\x1f\u210F\x1ehstrok;\x1f\u0127\x1e" ++
  "hybull;\x1f\u2043\x1ehyphen;\x1f\u2010\x1eiacute\x1f\xED\x1eiacute;\x1f\xED\x1e" ++
  "ic;\x1f\u2063\x1eicirc\x1f\xEE\x1eicirc;\x1f\xEE\x1eicy;\x1f\u0438\x1eiecy;\x1f\u0435\x1e" ++
  "iexcl\x1f\xA1\x1eiexcl;\x1f\xA1\x1eiff;\x1f\u21D4\x1eifr;\x1f𝔦\x1eigrave\x1f\xEC\x1e" ++
  "igrave;\x1f\xEC\x1eii;\x1f\u2148\x1eiiiint;\x1f\u2A0C\x1eiiint;\x1f\u222D\x1e" ++
  "iinfin;\x1f\u29DC\x1eiiota;\x1f\u2129\x1eijlig;\x1f\u0133\x1eimacr;\x1f\u012B\x1e" ++
  "image;\x1f\u2111\x1eimagline;\x1f\u2110\x1eimagpart;\x1f\u2111\x1eimath;\x1f\u0131\x1e" ++
  "imof;\x1f\u22B7\x1eimped;\x1f\u01B5\x1ein;\x1f\u2208\x1eincare;\x1f\u2105\x1e" ++
  "infin;\x1f\u221E\x1einfintie;\x1f\u29DD\x1einodot;\x1f\u0131\x1eint;\x1f\u222B\x1e" ++
  "intcal;\x1f\u22BA\x1eintegers;\x1f\u2124\x1eintercal;\x1f\u22BA\x1eintlarhk;\x1f\u2A17\x1e" ++
  "intprod;\x1f\u2A3C\x1eiocy;\x1f\u0451\x1eiogon;\x1f\u012F\x1eiopf;\x1f𝕚\x1e" ++
  "iota;\x1f\u03B9\x1eiprod;\x1f\u2A3C\x1eiquest\x1f\xBF\x1eiquest;\x1f\xBF\x1eiscr;\x1f𝒾\x1e" ++
  "isin;\x1f\u2208\x1eisinE;\x1f\u22F9\x1eisindot;\x1f\u22F5\x1eisins;\x1f\u22F4\x1e" ++
  "isinsv;\x1f\u22F3\x1eisinv;\x1f\u2208\x1eit;\x1f\u2062\x1eitilde;\x1f\u0129\x1e" ++
  "iukcy;\x1f\u0456\x1eiuml\x1f\xEF\x1eiuml;\x1f\xEF\x1ejcirc;\x1f\u0135\x1e" ++
  "jcy;\x1f\u0439\x1ejfr;\x1f𝔧\x1ejmath;\x1f\u0237\x1ejopf;\x1f𝕛\x1ejscr;\x1f𝒿\x1e" ++
  "jsercy;\x1f\u0458\x1ejukcy;\x1f\u0454\x1ekappa;\x1f\u03BA\x1ekappav;\x1f\u03F0\x1e" ++
  "kcedil;\x1f\u0137\x1ekcy;\x1f\u043A\x1ekfr;\x1f𝔨\x1ekgreen;\x1f\u0138\x1e" ++
  "khcy;\x1f\u0445\x1ekjcy;\x1f\u045C\x1ekopf;\x1f𝕜\x1ekscr;\x1f𝓀\x1elAarr;\x1f\u21DA\x1e" ++
  "lArr;\x1f\u21D0\x1elAtail;\x1f\u291B\x1elBarr;\x1f\u290E\x1elE;\x1f\u2266\x1e" ++
  "lEg;\x1f\u2A8B\x1elHar;\x1f\u2962\x1elacute;\x1f\u013A\x1elaemptyv;\x1f\u29B4\x1e" ++
  "lagran;\x1f\u2112\x1elambda;\x1f\u03BB\x1elang;\x1f\u27E8\x1elangd;\x1f\u2991\x1e" ++
  "langle;\x1f\u27E8\x1elap;\x1f\u2A85\x1elaquo\x1f\xAB\x1elaquo;\x1f\xAB\x1e" ++
  "larr;\x1f\u2190\x1elarrb;\x1f\u21E4\x1elarrbfs;\x1f\u291F\x1elarrfs;\x1f\u291D\x1e" ++
  "larrhk;\x1f\u21A9\x1elarrlp;\x1f\u21AB\x1elarrpl;\x1f\u2939\x1elarrsim;\x1f\u2973\x1e" ++
  "larrtl;\x1f\u21A2\x1elat;\x1f\u2AAB\x1elatail;\x1f\u2919\x1elate;\x1f\u2AAD\x1e" ++
  "lates;\x1f\u2AAD\uFE00\x1elbarr;\x1f\u290C\x1elbbrk;\x1f\u2772\x1elbrace;\x1f\x7B\x1e" ++
  "lbrack;\x1f[\x1elbrke;\x1f\u298B\x1elbrksld;\x1f\u298F\x1elbrkslu;\x1f\u298D\x1e" ++
  "lcaron;\x1f\u013E\x1elcedil;\x1f\u013C\x1elceil;\x1f\u2308\x1elcub;\x1f\x7B\x1e" ++
  "lcy;\x1f\u043B\x1eldca;\x1f\u2936\x1eldquo;\x1f\u201C\x1eldquor;\x1f\u201E\x1e" ++
  "ldrdhar;\x1f\u2967\x1eldrushar;\x1f\u294B\x1eldsh;\x1f\u21B2\x1ele;\x1f\u2264\x1e" ++
  "leftarrow;\x1f\u2190\x1eleftarrowtail;\x1f\u21A2\x1eleftharpoondown;\x1f\u21BD\x1e" ++
  "leftharpoonup;\x1f\u21BC\x1eleftleftarrows;\x1f\u21C7\x1eleftrightarrow;\x1f\u2194\x1e" ++
  "leftrightarrows;\x1f\u21C6\x1eleftrightharpoons;\x1f\u21CB\x1e" ++
  "leftrightsquigarrow;\x1f\u21AD\x1eleftthreetimes;\x1f\u22CB\x1eleg;\x1f\u22DA\x1e" ++
  "leq;\x1f\u2264\x1eleqq;\x1f\u2266\x1eleqslant;\x1f\u2A7D\x1eles;\x1f\u2A7D\x1e" ++
  "lescc;\x1f\u2AA8\x1elesdot;\x1f\u2A7F\x1elesdoto;\x1f\u2A81\x1elesdotor;\x1f\u2A83\x1e" ++
  "lesg;\x1f\u22DA\uFE00\x1elesges;\x1f\u2A93\x1elessapprox;\x1f\u2A85\x1e" ++
  "lessdot;\x1f\u22D6\x1elesseqgtr;\x1f\u22DA\x1elesseqqgtr;\x1f\u2A8B\x1e" ++
  "lessgtr;\x1f\u2276\x1elesssim;\x1f\u2272\x1elfisht;\x1f\u297C\x1elfloor;\x1f\u230A\x1e" ++
  "lfr;\x1f𝔩\x1elg;\x1f\u2276\x1elgE;\x1f\u2A91\x1elhard;\x1f\u21BD\x1elharu;\x1f\u21BC\x1e" ++
  "lharul;\x1f\u296A\x1elhblk;\x1f\u2584\x1eljcy;\x1f\u0459\x1ell;\x1f\u226A\x1e" ++
  "llarr;\x1f\u21C7\x1ellcorner;\x1f\u231E\x1ellhard;\x1f\u296B\x1elltri;\x1f\u25FA\x1e" ++
  "lmidot;\x1f\u0140\x1elmoust;\x1f\u23B0\x1elmoustache;\x1f\u23B0\x1elnE;\x1f\u2268\x1e" ++
  "lnap;\x1f\u2A89\x1elnapprox;\x1f\u2A89\x1elne;\x1f\u2A87\x1elneq;\x1f\u2A87\x1e" ++
  "lneqq;\x1f\u2268\x1elnsim;\x1f\u22E6\x1eloang;\x1f\u27EC\x1eloarr;\x1f\u21FD\x1e" ++
  "lobrk;\x1f\u27E6\x1elongleftarrow;\x1f\u27F5\x1elongleftrightarrow;\x1f\u27F7\x1e" ++
  "longmapsto;\x1f\u27FC\x1elongrightarrow;\x1f\u27F6\x1elooparrowleft;\x1f\u21AB\x1e" ++
  "looparrowright;\x1f\u21AC\x1elopar;\x1f\u2985\x1elopf;\x1f𝕝\x1eloplus;\x1f\u2A2D\x1e" ++
  "lotimes;\x1f\u2A34\x1elowast;\x1f\u2217\x1elowbar;\x1f_\x1eloz;\x1f\u25CA\x1e" ++
  "lozenge;\x1f\u25CA\x1elozf;\x1f\u29EB\x1elpar;\x1f(\x1elparlt;\x1f\u2993\x1e" ++
  "lrarr;\x1f\u21C6\x1elrcorner;\x1f\u231F\x1elrhar;\x1f\u21CB\x1elrhard;\x1f\u296D\x1e" ++
  "lrm;\x1f\u200E\x1elrtri;\x1f\u22BF\x1elsaquo;\x1f\u2039\x1elscr;\x1f𝓁\x1e" ++
  "lsh;\x1f\u21B0\x1elsim;\x1f\u2272\x1elsime;\x1f\u2A8D\x1elsimg;\x1f\u2A8F\x1e" ++
  "lsqb;\x1f[\x1elsquo;\x1f\u2018\x1elsquor;\x1f\u201A\x1elstrok;\x1f\u0142\x1elt\x1f<\x1e" ++
  "lt;\x1f<\x1eltcc;\x1f\u2AA6\x1eltcir;\x1f\u2A79\x1eltdot;\x1f\u22D6\x1e" ++
  "lthree;\x1f\u22CB\x1eltimes;\x1f\u22C9\x1eltlarr;\x1f\u2976\x1eltquest;\x1f\u2A7B\x1e" ++
  "ltrPar;\x1f\u2996\x1eltri;\x1f\u25C3\x1eltrie;\x1f\u22B4\x1eltrif;\x1f\u25C2\x1e" ++
  "lurdshar;\x1f\u294A\x1eluruhar;\x1f\u2966\x1elvertneqq;\x1f\u2268\uFE00\x1e" ++
  "lvnE;\x1f\u2268\uFE00\x1emDDot;\x1f\u223A\x1emacr\x1f\xAF\x1emacr;\x1f\xAF\x1e" ++
  "male;\x1f\u2642\x1emalt;\x1f\u2720\x1emaltese;\x1f\u2720\x1emap;\x1f\u21A6\x1e" ++
  "mapsto;\x1f\u21A6\x1emapstodown;\x1f\u21A7\x1emapstoleft;\x1f\u21A4\x1e" ++
  "mapstoup;\x1f\u21A5\x1emarker;\x1f\u25AE\x1emcomma;\x1f\u2A29\x1emcy;\x1f\u043C\x1e" ++
  "mdash;\x1f\u2014\x1emeasuredangle;\x1f\u2221\x1emfr;\x1f𝔪\x1emho;\x1f\u2127\x1e" ++
  "micro\x1f\xB5\x1emicro;\x1f\xB5\x1emid;\x1f\u2223\x1emidast;\x1f*\x1emidcir;\x1f\u2AF0\x1e" ++
  "middot\x1f\xB7\x1emiddot;\x1f\xB7\x1eminus;\x1f\u2212\x1eminusb;\x1f\u229F\x1e" ++
  "minusd;\x1f\u2238\x1eminusdu;\x1f\u2A2A\x1emlcp;\x1f\u2ADB\x1emldr;\x1f\u2026\x1e" ++
  "mnplus;\x1f\u2213\x1emodels;\x1f\u22A7\x1emopf;\x1f𝕞\x1emp;\x1f\u2213\x1emscr;\x1f𝓂\x1e" ++
  "mstpos;\x1f\u223E\x1emu;\x1f\u03BC\x1emultimap;\x1f\u22B8\x1emumap;\x1f\u22B8\x1e" ++
  "nGg;\x1f\u22D9\u0338\x1enGtv;\x1f\u226B\u0338\x1e" ++
  "nLeftarrow;\x1f\u21CD\x1enLeftrightarrow;\x1f\u21CE\x1enLl;\x1f\u22D8\u0338\x1e" ++
  "nLtv;\x1f\u226A\u0338\x1enRightarrow;\x1f\u21CF\x1e" ++
  "nVDash;\x1f\u22AF\x1enVdash;\x1f\u22AE\x1enabla;\x1f\u2207\x1enacute;\x1f\u0144\x1e" ++
  "nang;\x1f\u2220\u20D2\x1enap;\x1f\u2249\x1enapE;\x1f\u2A70\u0338\x1e" ++
  "napid;\x1f\u224B\u0338\x1enapos;\x1f\u0149\x1enapprox;\x1f\u2249\x1enatur;\x1f\u266E\x1e" ++
  "natural;\x1f\u266E\x1enaturals;\x1f\u2115\x1enbsp\x1f\xA0\x1enbsp;\x1f\xA0\x1e" ++
  "nbump;\x1f\u224E\u0338\x1enbumpe;\x1f\u224F\u0338\x1encap;\x1f\u2A43\x1e" ++
  "ncaron;\x1f\u0148\x1encedil;\x1f\u0146\x1encong;\x1f\u2247\x1e" ++
  "ncongdot;\x1f\u2A6D\u0338\x1encup;\x1f\u2A42\x1ency;\x1f\u043D\x1endash;\x1f\u2013\x1e" ++
  "ne;\x1f\u2260\x1eneArr;\x1f\u21D7\x1enearhk;\x1f\u2924\x1enearr;\x1f\u2197\x1e" ++
  "nearrow;\x1f\u2197\x1enedot;\x1f\u2250\u0338\x1enequiv;\x1f\u2262\x1enesear;\x1f\u2928\x1e" ++
  "nesim;\x1f\u2242\u0338\x1enexist;\x1f\u2204\x1enexists;\x1f\u2204\x1enfr;\x1f𝔫\x1e" ++
  "ngE;\x1f\u2267\u0338\x1enge;\x1f\u2271\x1engeq;\x1f\u2271\x1engeqq;\x1f\u2267\u0338\x1e" ++
  "ngeqslant;\x1f\u2A7E\u0338\x1enges;\x1f\u2A7E\u0338\x1engsim;\x1f\u2275\x1e" ++
  "ngt;\x1f\u226F\x1engtr;\x1f\u226F\x1enhArr;\x1f\u21CE\x1enharr;\x1f\u21AE\x1e" ++
  "nhpar;\x1f\u2AF2\x1eni;\x1f\u220B\x1enis;\x1f\u22FC\x1enisd;\x1f\u22FA\x1e" ++
  "niv;\x1f\u220B\x1enjcy;\x1f\u045A\x1enlArr;\x1f\u21CD\x1enlE;\x1f\u2266\u0338\x1e" ++
  "nlarr;\x1f\u219A\x1enldr;\x1f\u2025\x1enle;\x1f\u2270\x1enleftarrow;\x1f\u219A\x1e" ++
  "nleftrightarrow;\x1f\u21AE\x1enleq;\x1f\u2270\x1enleqq;\x1f\u2266\u0338\x1e" ++
  "nleqslant;\x1f\u2A7D\u0338\x1enles;\x1f\u2A7D\u0338\x1enless;\x1f\u226E\x1e" ++
  "nlsim;\x1f\u2274\x1enlt;\x1f\u226E\x1enltri;\x1f\u22EA\x1enltrie;\x1f\u22EC\x1e" ++
  "nmid;\x1f\u2224\x1enopf;\x1f𝕟\x1enot\x1f\xAC\x1enot;\x1f\xAC\x1enotin;\x1f\u2209\x1e" ++
  "notinE;\x1f\u22F9\u0338\x1enotindot;\x1f\u22F5\u0338\x1enotinva;\x1f\u2209\x1e" ++
  "notinvb;\x1f\u22F7\x1enotinvc;\x1f\u22F6\x1enotni;\x1f\u220C\x1enotniva;\x1f\u220C\x1e" ++
  "notnivb;\x1f\u22FE\x1enotnivc;\x1f\u22FD\x1enpar;\x1f\u2226\x1enparallel;\x1f\u2226\x1e" ++
  "nparsl;\x1f\u2AFD\u20E5\x1enpart;\x1f\u2202\u0338\x1enpolint;\x1f\u2A14\x1e" ++
  "npr;\x1f\u2280\x1enprcue;\x1f\u22E0\x1enpre;\x1f\u2AAF\u0338\x1enprec;\x1f\u2280\x1e" ++
  "npreceq;\x1f\u2AAF\u0338\x1enrArr;\x1f\u21CF\x1enrarr;\x1f\u219B\x1e" ++
  "nrarrc;\x1f\u2933\u0338\x1enrarrw;\x1f\u219D\u0338\x1enrightarrow;\x1f\u219B\x1e" ++
  "nrtri;\x1f\u22EB\x1enrtrie;\x1f\u22ED\x1ensc;\x1f\u2281\x1ensccue;\x1f\u22E1\x1e" ++
  "nsce;\x1f\u2AB0\u0338\x1enscr;\x1f𝓃\x1enshortmid;\x1f\u2224\x1e" ++
  "nshortparallel;\x1f\u2226\x1ensim;\x1f\u2241\x1ensime;\x1f\u2244\x1ensimeq;\x1f\u2244\x1e" ++
  "nsmid;\x1f\u2224\x1enspar;\x1f\u2226\x1ensqsube;\x1f\u22E2\x1ensqsupe;\x1f\u22E3\x1e" ++
  "nsub;\x1f\u2284\x1ensubE;\x1f\u2AC5\u0338\x1ensube;\x1f\u2288\x1e" ++
  "nsubset;\x1f\u2282\u20D2\x1ensubseteq;\x1f\u2288\x1ensubseteqq;\x1f\u2AC5\u0338\x1e" ++
  "nsucc;\x1f\u2281\x1ensucceq;\x1f\u2AB0\u0338\x1ensup;\x1f\u2285\x1e" ++
  "nsupE;\x1f\u2AC6\u0338\x1ensupe;\x1f\u2289\x1ensupset;\x1f\u2283\u20D2\x1e" ++
  "nsupseteq;\x1f\u2289\x1ensupseteqq;\x1f\u2AC6\u0338\x1entgl;\x1f\u2279\x1e" ++
  "ntilde\x1f\xF1\x1entilde;\x1f\xF1\x1entlg;\x1f\u2278\x1entriangleleft;\x1f\u22EA\x1e" ++
  "ntrianglelefteq;\x1f\u22EC\x1entriangleright;\x1f\u22EB\x1entrianglerighteq;\x1f\u22ED\x1e" ++
  "nu;\x1f\u03BD\x1enum;\x1f#\x1enumero;\x1f\u2116\x1enumsp;\x1f\u2007\x1e" ++
  "nvDash;\x1f\u22AD\x1envHarr;\x1f\u2904\x1envap;\x1f\u224D\u20D2\x1envdash;\x1f\u22AC\x1e" ++
  "nvge;\x1f\u2265\u20D2\x1envgt;\x1f>\u20D2\x1envinfin;\x1f\u29DE\x1envlArr;\x1f\u2902\x1e" ++
  "nvle;\x1f\u2264\u20D2\x1envlt;\x1f<\u20D2\x1envltrie;\x1f\u22B4\u20D2\x1e" ++
  "nvrArr;\x1f\u2903\x1envrtrie;\x1f\u22B5\u20D2\x1envsim;\x1f\u223C\u20D2\x1e" ++
  "nwArr;\x1f\u21D6\x1enwarhk;\x1f\u2923\x1enwarr;\x1f\u2196\x1enwarrow;\x1f\u2196\x1e" ++
  "nwnear;\x1f\u2927\x1eoS;\x1f\u24C8\x1eoacute\x1f\xF3\x1eoacute;\x1f\xF3\x1e" ++
  "oast;\x1f\u229B\x1eocir;\x1f\u229A\x1eocirc\x1f\xF4\x1eocirc;\x1f\xF4\x1e" ++
  "ocy;\x1f\u043E\x1eodash;\x1f\u229D\x1eodblac;\x1f\u0151\x1eodiv;\x1f\u2A38\x1e" ++
  "odot;\x1f\u2299\x1eodsold;\x1f\u29BC\x1eoelig;\x1f\u0153\x1eofcir;\x1f\u29BF\x1e" ++
  "ofr;\x1f𝔬\x1eogon;\x1f\u02DB\x1eograve\x1f\xF2\x1eograve;\x1f\xF2\x1eogt;\x1f\u29C1\x1e" ++
  "ohbar;\x1f\u29B5\x1eohm;\x1f\u03A9\x1eoint;\x1f\u222E\x1eolarr;\x1f\u21BA\x1e" ++
  "olcir;\x1f\u29BE\x1eolcross;\x1f\u29BB\x1eoline;\x1f\u203E\x1eolt;\x1f\u29C0\x1e" ++
  "omacr;\x1f\u014D\x1eomega;\x1f\u03C9\x1eomicron;\x1f\u03BF\x1eomid;\x1f\u29B6\x1e" ++
  "ominus;\x1f\u2296\x1eoopf;\x1f𝕠\x1eopar;\x1f\u29B7\x1eoperp;\x1f\u29B9\x1e" ++
  "oplus;\x1f\u2295\x1eor;\x1f\u2228\x1eorarr;\x1f\u21BB\x1eord;\x1f\u2A5D\x1e" ++
  "order;\x1f\u2134\x1eorderof;\x1f\u2134\x1eordf\x1f\xAA\x1eordf;\x1f\xAA\x1e" ++
  "ordm\x1f\xBA\x1eordm;\x1f\xBA\x1eorigof;\x1f\u22B6\x1eoror;\x1f\u2A56\x1e" ++
  "orslope;\x1f\u2A57\x1eorv;\x1f\u2A5B\x1eoscr;\x1f\u2134\x1eoslash\x1f\xF8\x1e" ++
  "oslash;\x1f\xF8\x1eosol;\x1f\u2298\x1eotilde\x1f\xF5\x1eotilde;\x1f\xF5\x1e" ++
  "otimes;\x1f\u2297\x1eotimesas;\x1f\u2A36\x1eouml\x1f\xF6\x1eouml;\x1f\xF6\x1e" ++
  "ovbar;\x1f\u233D\x1epar;\x1f\u2225\x1epara\x1f\xB6\x1epara;\x1f\xB6\x1e" ++
  "parallel;\x1f\u2225\x1eparsim;\x1f\u2AF3\x1eparsl;\x1f\u2AFD\x1epart;\x1f\u2202\x1e" ++
  "pcy;\x1f\u043F\x1epercnt;\x1f%\x1eperiod;\x1f.\x1epermil;\x1f\u2030\x1eperp;\x1f\u22A5\x1e" ++
  "pertenk;\x1f\u2031\x1epfr;\x1f𝔭\x1ephi;\x1f\u03C6\x1ephiv;\x1f\u03D5\x1e" ++
  "phmmat;\x1f\u2133\x1ephone;\x1f\u260E\x1epi;\x1f\u03C0\x1epitchfork;\x1f\u22D4\x1e" ++
  "piv;\x1f\u03D6\x1eplanck;\x1f\u210F\x1eplanckh;\x1f\u210E\x1eplankv;\x1f\u210F\x1e" ++
  "plus;\x1f+\x1eplusacir;\x1f\u2A23\x1eplusb;\x1f\u229E\x1epluscir;\x1f\u2A22\x1e" ++
  "plusdo;\x1f\u2214\x1eplusdu;\x1f\u2A25\x1epluse;\x1f\u2A72\x1eplusmn\x1f\xB1\x1e" ++
  "plusmn;\x1f\xB1\x1eplussim;\x1f\u2A26\x1eplustwo;\x1f\u2A27\x1epm;\x1f\xB1\x1e" ++
  "pointint;\x1f\u2A15\x1epopf;\x1f𝕡\x1epound\x1f\xA3\x1epound;\x1f\xA3\x1epr;\x1f\u227A\x1e" ++
  "prE;\x1f\u2AB3\x1eprap;\x1f\u2AB7\x1eprcue;\x1f\u227C\x1epre;\x1f\u2AAF\x1e" ++
  "prec;\x1f\u227A\x1eprecapprox;\x1f\u2AB7\x1epreccurlyeq;\x1f\u227C\x1e" ++
  "preceq;\x1f\u2AAF\x1eprecnapprox;\x1f\u2AB9\x1eprecneqq;\x1f\u2AB5\x1e" ++
  "precnsim;\x1f\u22E8\x1eprecsim;\x1f\u227E\x1eprime;\x1f\u2032\x1eprimes;\x1f\u2119\x1e" ++
  "prnE;\x1f\u2AB5\x1eprnap;\x1f\u2AB9\x1eprnsim;\x1f\u22E8\x1eprod;\x1f\u220F\x1e" ++
  "profalar;\x1f\u232E\x1eprofline;\x1f\u2312\x1eprofsurf;\x1f\u2313\x1eprop;\x1f\u221D\x1e" ++
  "propto;\x1f\u221D\x1eprsim;\x1f\u227E\x1eprurel;\x1f\u22B0\x1epscr;\x1f𝓅\x1e" ++
  "psi;\x1f\u03C8\x1epuncsp;\x1f\u2008\x1eqfr;\x1f𝔮\x1eqint;\x1f\u2A0C\x1eqopf;\x1f𝕢\x1e" ++
  "qprime;\x1f\u2057\x1eqscr;\x1f𝓆\x1equaternions;\x1f\u210D\x1equatint;\x1f\u2A16\x1e" ++
  "quest;\x1f?\x1equesteq;\x1f\u225F\x1equot\x1f\"\x1equot;\x1f\"\x1erAarr;\x1f\u21DB\x1e" ++
  "rArr;\x1f\u21D2\x1erAtail;\x1f\u291C\x1erBarr;\x1f\u290F\x1erHar;\x1f\u2964\x1e" ++
  "race;\x1f\u223D\u0331\x1eracute;\x1f\u0155\x1eradic;\x1f\u221A\x1eraemptyv;\x1f\u29B3\x1e" ++
  "rang;\x1f\u27E9\x1erangd;\x1f\u2992\x1erange;\x1f\u29A5\x1erangle;\x1f\u27E9\x1e" ++
  "raquo\x1f\xBB\x1eraquo;\x1f\xBB\x1erarr;\x1f\u2192\x1erarrap;\x1f\u2975\x1e" ++
  "rarrb;\x1f\u21E5\x1erarrbfs;\x1f\u2920\x1erarrc;\x1f\u2933\x1erarrfs;\x1f\u291E\x1e" ++
  "rarrhk;\x1f\u21AA\x1erarrlp;\x1f\u21AC\x1erarrpl;\x1f\u2945\x1erarrsim;\x1f\u2974\x1e" ++
  "rarrtl;\x1f\u21A3\x1erarrw;\x1f\u219D\x1eratail;\x1f\u291A\x1eratio;\x1f\u2236\x1e" ++
  "rationals;\x1f\u211A\x1erbarr;\x1f\u290D\x1erbbrk;\x1f\u2773\x1erbrace;\x1f\x7D\x1e" ++
  "rbrack;\x1f]\x1erbrke;\x1f\u298C\x1erbrksld;\x1f\u298E\x1erbrkslu;\x1f\u2990\x1e" ++
  "rcaron;\x1f\u0159\x1ercedil;\x1f\u0157\x1erceil;\x1f\u2309\x1ercub;\x1f\x7D\x1e" ++
  "rcy;\x1f\u0440\x1erdca;\x1f\u2937\x1erdldhar;\x1f\u2969\x1erdquo;\x1f\u201D\x1e" ++
  "rdquor;\x1f\u201D\x1erdsh;\x1f\u21B3\x1ereal;\x1f\u211C\x1erealine;\x1f\u211B\x1e" ++
  "realpart;\x1f\u211C\x1ereals;\x1f\u211D\x1erect;\x1f\u25AD\x1ereg\x1f\xAE\x1e" ++
  "reg;\x1f\xAE\x1erfisht;\x1f\u297D\x1erfloor;\x1f\u230B\x1erfr;\x1f𝔯\x1e" ++
  "rhard;\x1f\u21C1\x1erharu;\x1f\u21C0\x1erharul;\x1f\u296C\x1erho;\x1f\u03C1\x1e" ++
  "rhov;\x1f\u03F1\x1erightarrow;\x1f\u2192\x1erightarrowtail;\x1f\u21A3\x1e" ++
  "rightharpoondown;\x1f\u21C1\x1erightharpoonup;\x1f\u21C0\x1erightleftarrows;\x1f\u21C4\x1e" ++
  "rightleftharpoons;\x1f\u21CC\x1erightrightarrows;\x1f\u21C9\x1e" ++
  "rightsquigarrow;\x1f\u219D\x1erightthreetimes;\x1f\u22CC\x1ering;\x1f\u02DA\x1e" ++
  "risingdotseq;\x1f\u2253\x1erlarr;\x1f\u21C4\x1erlhar;\x1f\u21CC\x1erlm;\x1f\u200F\x1e" ++
  "rmoust;\x1f\u23B1\x1ermoustache;\x1f\u23B1\x1ernmid;\x1f\u2AEE\x1eroang;\x1f\u27ED\x1e" ++
  "roarr;\x1f\u21FE\x1erobrk;\x1f\u27E7\x1eropar;\x1f\u2986\x1eropf;\x1f𝕣\x1e" ++
  "roplus;\x1f\u2A2E\x1erotimes;\x1f\u2A35\x1erpar;\x1f)\x1erpargt;\x1f\u2994\x1e" ++
  "rppolint;\x1f\u2A12\x1errarr;\x1f\u21C9\x1ersaquo;\x1f\u203A\x1erscr;\x1f𝓇\x1e" ++
  "rsh;\x1f\u21B1\x1ersqb;\x1f]\x1ersquo;\x1f\u2019\x1ersquor;\x1f\u2019\x1e" ++
  "rthree;\x1f\u22CC\x1ertimes;\x1f\u22CA\x1ertri;\x1f\u25B9\x1ertrie;\x1f\u22B5\x1e" ++
  "rtrif;\x1f\u25B8\x1ertriltri;\x1f\u29CE\x1eruluhar;\x1f\u2968\x1erx;\x1f\u211E\x1e" ++
  "sacute;\x1f\u015B\x1esbquo;\x1f\u201A\x1esc;\x1f\u227B\x1escE;\x1f\u2AB4\x1e" ++
  "scap;\x1f\u2AB8\x1escaron;\x1f\u0161\x1esccue;\x1f\u227D\x1esce;\x1f\u2AB0\x1e" ++
  "scedil;\x1f\u015F\x1escirc;\x1f\u015D\x1escnE;\x1f\u2AB6\x1escnap;\x1f\u2ABA\x1e" ++
  "scnsim;\x1f\u22E9\x1escpolint;\x1f\u2A13\x1escsim;\x1f\u227F\x1escy;\x1f\u0441\x1e" ++
  "sdot;\x1f\u22C5\x1esdotb;\x1f\u22A1\x1esdote;\x1f\u2A66\x1eseArr;\x1f\u21D8\x1e" ++
  "searhk;\x1f\u2925\x1esearr;\x1f\u2198\x1esearrow;\x1f\u2198\x1esect\x1f\xA7\x1e" ++
  "sect;\x1f\xA7\x1esemi;\x1f;\x1eseswar;\x1f\u2929\x1esetminus;\x1f\u2216\x1e" ++
  "setmn;\x1f\u2216\x1esext;\x1f\u2736\x1esfr;\x1f𝔰\x1esfrown;\x1f\u2322\x1e" ++
  "sharp;\x1f\u266F\x1eshchcy;\x1f\u0449\x1eshcy;\x1f\u0448\x1eshortmid;\x1f\u2223\x1e" ++
  "shortparallel;\x1f\u2225\x1eshy\x1f\xAD\x1eshy;\x1f\xAD\x1esigma;\x1f\u03C3\x1e" ++
  "sigmaf;\x1f\u03C2\x1esigmav;\x1f\u03C2\x1esim;\x1f\u223C\x1esimdot;\x1f\u2A6A\x1e" ++
  "sime;\x1f\u2243\x1esimeq;\x1f\u2243\x1esimg;\x1f\u2A9E\x1esimgE;\x1f\u2AA0\x1e" ++
  "siml;\x1f\u2A9D\x1esimlE;\x1f\u2A9F\x1esimne;\x1f\u2246\x1esimplus;\x1f\u2A24\x1e" ++
  "simrarr;\x1f\u2972\x1eslarr;\x1f\u2190\x1esmallsetminus;\x1f\u2216\x1e" ++
  "smashp;\x1f\u2A33\x1esmeparsl;\x1f\u29E4\x1esmid;\x1f\u2223\x1esmile;\x1f\u2323\x1e" ++
  "smt;\x1f\u2AAA\x1esmte;\x1f\u2AAC\x1esmtes;\x1f\u2AAC\uFE00\x1esoftcy;\x1f\u044C\x1e" ++
  "sol;\x1f/\x1esolb;\x1f\u29C4\x1esolbar;\x1f\u233F\x1esopf;\x1f𝕤\x1espades;\x1f\u2660\x1e" ++
  "spadesuit;\x1f\u2660\x1espar;\x1f\u2225\x1esqcap;\x1f\u2293\x1esqcaps;\x1f\u2293\uFE00\x1e" ++
  "sqcup;\x1f\u2294\x1esqcups;\x1f\u2294\uFE00\x1esqsub;\x1f\u228F\x1esqsube;\x1f\u2291\x1e" ++
  "sqsubset;\x1f\u228F\x1esqsubseteq;\x1f\u2291\x1esqsup;\x1f\u2290\x1esqsupe;\x1f\u2292\x1e" ++
  "sqsupset;\x1f\u2290\x1esqsupseteq;\x1f\u2292\x1esqu;\x1f\u25A1\x1esquare;\x1f\u25A1\x1e" ++
  "squarf;\x1f\u25AA\x1esquf;\x1f\u25AA\x1esrarr;\x1f\u2192\x1esscr;\x1f𝓈\x1e" ++
  "ssetmn;\x1f\u2216\x1essmile;\x1f\u2323\x1esstarf;\x1f\u22C6\x1estar;\x1f\u2606\x1e" ++
  "starf;\x1f\u2605\x1estraightepsilon;\x1f\u03F5\x1estraightphi;\x1f\u03D5\x1e" ++
  "strns;\x1f\xAF\x1esub;\x1f\u2282\x1esubE;\x1f\u2AC5\x1esubdot;\x1f\u2ABD\x1e" ++
  "sube;\x1f\u2286\x1esubedot;\x1f\u2AC3\x1esubmult;\x1f\u2AC1\x1esubnE;\x1f\u2ACB\x1e" ++
  "subne;\x1f\u228A\x1esubplus;\x1f\u2ABF\x1esubrarr;\x1f\u2979\x1esubset;\x1f\u2282\x1e" ++
  "subseteq;\x1f\u2286\x1esubseteqq;\x1f\u2AC5\x1esubsetneq;\x1f\u228A\x1e" ++
  "subsetneqq;\x1f\u2ACB\x1esubsim;\x1f\u2AC7\x1esubsub;\x1f\u2AD5\x1esubsup;\x1f\u2AD3\x1e" ++
  "succ;\x1f\u227B\x1esuccapprox;\x1f\u2AB8\x1esucccurlyeq;\x1f\u227D\x1e" ++
  "succeq;\x1f\u2AB0\x1esuccnapprox;\x1f\u2ABA\x1esuccneqq;\x1f\u2AB6\x1e" ++
  "succnsim;\x1f\u22E9\x1esuccsim;\x1f\u227F\x1esum;\x1f\u2211\x1esung;\x1f\u266A\x1e" ++
  "sup1\x1f\xB9\x1esup1;\x1f\xB9\x1esup2\x1f\xB2\x1esup2;\x1f\xB2\x1esup3\x1f\xB3\x1e" ++
  "sup3;\x1f\xB3\x1esup;\x1f\u2283\x1esupE;\x1f\u2AC6\x1esupdot;\x1f\u2ABE\x1e" ++
  "supdsub;\x1f\u2AD8\x1esupe;\x1f\u2287\x1esupedot;\x1f\u2AC4\x1esuphsol;\x1f\u27C9\x1e" ++
  "suphsub;\x1f\u2AD7\x1esuplarr;\x1f\u297B\x1esupmult;\x1f\u2AC2\x1esupnE;\x1f\u2ACC\x1e" ++
  "supne;\x1f\u228B\x1esupplus;\x1f\u2AC0\x1esupset;\x1f\u2283\x1esupseteq;\x1f\u2287\x1e" ++
  "supseteqq;\x1f\u2AC6\x1esupsetneq;\x1f\u228B\x1esupsetneqq;\x1f\u2ACC\x1e" ++
  "supsim;\x1f\u2AC8\x1esupsub;\x1f\u2AD4\x1esupsup;\x1f\u2AD6\x1eswArr;\x1f\u21D9\x1e" ++
  "swarhk;\x1f\u2926\x1eswarr;\x1f\u2199\x1eswarrow;\x1f\u2199\x1eswnwar;\x1f\u292A\x1e" ++
  "szlig\x1f\xDF\x1eszlig;\x1f\xDF\x1etarget;\x1f\u2316\x1etau;\x1f\u03C4\x1e" ++
  "tbrk;\x1f\u23B4\x1etcaron;\x1f\u0165\x1etcedil;\x1f\u0163\x1etcy;\x1f\u0442\x1e" ++
  "tdot;\x1f\u20DB\x1etelrec;\x1f\u2315\x1etfr;\x1f𝔱\x1ethere4;\x1f\u2234\x1e" ++
  "therefore;\x1f\u2234\x1etheta;\x1f\u03B8\x1ethetasym;\x1f\u03D1\x1ethetav;\x1f\u03D1\x1e" ++
  "thickapprox;\x1f\u2248\x1ethicksim;\x1f\u223C\x1ethinsp;\x1f\u2009\x1ethkap;\x1f\u2248\x1e" ++
  "thksim;\x1f\u223C\x1ethorn\x1f\xFE\x1ethorn;\x1f\xFE\x1etilde;\x1f\u02DC\x1e" ++
  "times\x1f\xD7\x1etimes;\x1f\xD7\x1etimesb;\x1f\u22A0\x1etimesbar;\x1f\u2A31\x1e" ++
  "timesd;\x1f\u2A30\x1etint;\x1f\u222D\x1etoea;\x1f\u2928\x1etop;\x1f\u22A4\x1e" ++
  "topbot;\x1f\u2336\x1etopcir;\x1f\u2AF1\x1etopf;\x1f𝕥\x1etopfork;\x1f\u2ADA\x1e" ++
  "tosa;\x1f\u2929\x1etprime;\x1f\u2034\x1etrade;\x1f\u2122\x1etriangle;\x1f\u25B5\x1e" ++
  "triangledown;\x1f\u25BF\x1etriangleleft;\x1f\u25C3\x1etrianglelefteq;\x1f\u22B4\x1e" ++
  "triangleq;\x1f\u225C\x1etriangleright;\x1f\u25B9\x1etrianglerighteq;\x1f\u22B5\x1e" ++
  "tridot;\x1f\u25EC\x1etrie;\x1f\u225C\x1etriminus;\x1f\u2A3A\x1etriplus;\x1f\u2A39\x1e" ++
  "trisb;\x1f\u29CD\x1etritime;\x1f\u2A3B\x1etrpezium;\x1f\u23E2\x1etscr;\x1f𝓉\x1e" ++
  "tscy;\x1f\u0446\x1etshcy;\x1f\u045B\x1etstrok;\x1f\u0167\x1etwixt;\x1f\u226C\x1e" ++
  "twoheadleftarrow;\x1f\u219E\x1etwoheadrightarrow;\x1f\u21A0\x1euArr;\x1f\u21D1\x1e" ++
  "uHar;\x1f\u2963\x1euacute\x1f\xFA\x1euacute;\x1f\xFA\x1euarr;\x1f\u2191\x1e" ++
  "ubrcy;\x1f\u045E\x1eubreve;\x1f\u016D\x1eucirc\x1f\xFB\x1eucirc;\x1f\xFB\x1e" ++
  "ucy;\x1f\u0443\x1eudarr;\x1f\u21C5\x1eudblac;\x1f\u0171\x1eudhar;\x1f\u296E\x1e" ++
  "ufisht;\x1f\u297E\x1eufr;\x1f𝔲\x1eugrave\x1f\xF9\x1eugrave;\x1f\xF9\x1e" ++
  "uharl;\x1f\u21BF\x1euharr;\x1f\u21BE\x1euhblk;\x1f\u2580\x1eulcorn;\x1f\u231C\x1e" ++
  "ulcorner;\x1f\u231C\x1eulcrop;\x1f\u230F\x1eultri;\x1f\u25F8\x1eumacr;\x1f\u016B\x1e" ++
  "uml\x1f\xA8\x1euml;\x1f\xA8\x1euogon;\x1f\u0173\x1euopf;\x1f𝕦\x1euparrow;\x1f\u2191\x1e" ++
  "updownarrow;\x1f\u2195\x1eupharpoonleft;\x1f\u21BF\x1eupharpoonright;\x1f\u21BE\x1e" ++
  "uplus;\x1f\u228E\x1eupsi;\x1f\u03C5\x1eupsih;\x1f\u03D2\x1eupsilon;\x1f\u03C5\x1e" ++
  "upuparrows;\x1f\u21C8\x1eurcorn;\x1f\u231D\x1eurcorner;\x1f\u231D\x1eurcrop;\x1f\u230E\x1e" ++
  "uring;\x1f\u016F\x1eurtri;\x1f\u25F9\x1euscr;\x1f𝓊\x1eutdot;\x1f\u22F0\x1e" ++
  "utilde;\x1f\u0169\x1eutri;\x1f\u25B5\x1eutrif;\x1f\u25B4\x1euuarr;\x1f\u21C8\x1e" ++
  "uuml\x1f\xFC\x1euuml;\x1f\xFC\x1euwangle;\x1f\u29A7\x1evArr;\x1f\u21D5\x1e" ++
  "vBar;\x1f\u2AE8\x1evBarv;\x1f\u2AE9\x1evDash;\x1f\u22A8\x1evangrt;\x1f\u299C\x1e" ++
  "varepsilon;\x1f\u03F5\x1evarkappa;\x1f\u03F0\x1evarnothing;\x1f\u2205\x1e" ++
  "varphi;\x1f\u03D5\x1evarpi;\x1f\u03D6\x1evarpropto;\x1f\u221D\x1evarr;\x1f\u2195\x1e" ++
  "varrho;\x1f\u03F1\x1evarsigma;\x1f\u03C2\x1evarsubsetneq;\x1f\u228A\uFE00\x1e" ++
  "varsubsetneqq;\x1f\u2ACB\uFE00\x1evarsupsetneq;\x1f\u228B\uFE00\x1e" ++
  "varsupsetneqq;\x1f\u2ACC\uFE00\x1evartheta;\x1f\u03D1\x1evartriangleleft;\x1f\u22B2\x1e" ++
  "vartriangleright;\x1f\u22B3\x1evcy;\x1f\u0432\x1evdash;\x1f\u22A2\x1evee;\x1f\u2228\x1e" ++
  "veebar;\x1f\u22BB\x1eveeeq;\x1f\u225A\x1evellip;\x1f\u22EE\x1everbar;\x1f|\x1e" ++
  "vert;\x1f|\x1evfr;\x1f𝔳\x1evltri;\x1f\u22B2\x1evnsub;\x1f\u2282\u20D2\x1e" ++
  "vnsup;\x1f\u2283\u20D2\x1evopf;\x1f𝕧\x1evprop;\x1f\u221D\x1evrtri;\x1f\u22B3\x1e" ++
  "vscr;\x1f𝓋\x1evsubnE;\x1f\u2ACB\uFE00\x1evsubne;\x1f\u228A\uFE00\x1e" ++
  "vsupnE;\x1f\u2ACC\uFE00\x1evsupne;\x1f\u228B\uFE00\x1evzigzag;\x1f\u299A\x1e" ++
  "wcirc;\x1f\u0175\x1ewedbar;\x1f\u2A5F\x1ewedge;\x1f\u2227\x1ewedgeq;\x1f\u2259\x1e" ++
  "weierp;\x1f\u2118\x1ewfr;\x1f𝔴\x1ewopf;\x1f𝕨\x1ewp;\x1f\u2118\x1ewr;\x1f\u2240\x1e" ++
  "wreath;\x1f\u2240\x1ewscr;\x1f𝓌\x1excap;\x1f\u22C2\x1excirc;\x1f\u25EF\x1e" ++
  "xcup;\x1f\u22C3\x1exdtri;\x1f\u25BD\x1exfr;\x1f𝔵\x1exhArr;\x1f\u27FA\x1e" ++
  "xharr;\x1f\u27F7\x1exi;\x1f\u03BE\x1exlArr;\x1f\u27F8\x1exlarr;\x1f\u27F5\x1e" ++
  "xmap;\x1f\u27FC\x1exnis;\x1f\u22FB\x1exodot;\x1f\u2A00\x1exopf;\x1f𝕩\x1e" ++
  "xoplus;\x1f\u2A01\x1exotime;\x1f\u2A02\x1exrArr;\x1f\u27F9\x1exrarr;\x1f\u27F6\x1e" ++
  "xscr;\x1f𝓍\x1exsqcup;\x1f\u2A06\x1exuplus;\x1f\u2A04\x1exutri;\x1f\u25B3\x1e" ++
  "xvee;\x1f\u22C1\x1exwedge;\x1f\u22C0\x1eyacute\x1f\xFD\x1eyacute;\x1f\xFD\x1e" ++
  "yacy;\x1f\u044F\x1eycirc;\x1f\u0177\x1eycy;\x1f\u044B\x1eyen\x1f\xA5\x1eyen;\x1f\xA5\x1e" ++
  "yfr;\x1f𝔶\x1eyicy;\x1f\u0457\x1eyopf;\x1f𝕪\x1eyscr;\x1f𝓎\x1eyucy;\x1f\u044E\x1e" ++
  "yuml\x1f\xFF\x1eyuml;\x1f\xFF\x1ezacute;\x1f\u017A\x1ezcaron;\x1f\u017E\x1e" ++
  "zcy;\x1f\u0437\x1ezdot;\x1f\u017C\x1ezeetrf;\x1f\u2128\x1ezeta;\x1f\u03B6\x1ezfr;\x1f𝔷\x1e" ++
  "zhcy;\x1f\u0436\x1ezigrarr;\x1f\u21DD\x1ezopf;\x1f𝕫\x1ezscr;\x1f𝓏\x1ezwj;\x1f\u200D\x1e" ++
  "zwnj;\x1f\u200C\x1e"

def entityEntries : List (String × String) :=
  (entityTable.splitOn "\x1e").filterMap fun rec =>
    match rec.splitOn "\x1f" with
    | [name, value] => some (name, value)
    | _ => none

def lookupEntity (name : String) : Option String :=
  (entityEntries.find? (·.1 == name)).map (·.2)

end Transclusion.Markup
